/-
Descriptors of object files. A descriptor that ends in a parenthesis is a
library with a member behind it, and it is taken apart at the last opening
parenthesis (`Splits`); whatever parentheses stand before that are part of
the library's path. Every other descriptor is a path. Of both parts the
base names are kept, and of the place only the path of the file or of the
library.

What is shown of an object file, `library(file)`, is a descriptor of the
same kind: a base name of a member has no opening parenthesis where the
member has none, and a base name of a path that does not take apart does
not take apart itself, as long as it is the end of the path
(`baseName_suffix`). So what is shown names an object file that is shown
alike, and whose parts have the same names.
-/
import LinkOrder.Object
import LinkOrder.Proofs.Object.BaseName

namespace LinkOrder

/-- What stands at the end of a text and is free of a mark stands behind
it. -/
theorem Text.suffix_of_suffix_append_cons {mark : Char}
    {ending before after : List Char} (hmark : mark ∉ ending)
    (h : ending <:+ before ++ mark :: after) : ending <:+ after := by
  rcases List.suffix_or_suffix_of_suffix h (List.suffix_append _ _) with
    hinside | hbeyond
  · rcases List.suffix_cons_iff.1 hinside with rfl | hafter
    · exact absurd List.mem_cons_self hmark
    · exact hafter
  · exact absurd (hbeyond.subset List.mem_cons_self) hmark

namespace Path

variable {text : String}

/-- Where nothing idle stands at the end of a path, its base name does. -/
theorem baseName_suffix (hslash : ¬ ['/'] <:+ text.toList)
    (hdot : ¬ ['/', '.'] <:+ text.toList) :
    (baseName text).toList <:+ text.toList := by
  rcases baseName_cases text with ⟨-, hself⟩ | ⟨hends, -⟩
  · simp only [hself, List.suffix_refl]
  · obtain ⟨front, tail, htext, -, htail⟩ := hends.split
    rw [htext] at hslash hdot ⊢
    cases htail with
    | nil =>
        rw [List.append_nil]
        exact List.suffix_append ..
    | slash =>
        refine absurd ?_ hslash
        rw [← List.append_assoc, ← List.append_assoc]
        exact List.suffix_append ..
    | dot =>
        refine absurd ?_ hdot
        rw [← List.append_assoc, ← List.append_assoc]
        exact List.suffix_append ..

/-- A base name with an extension has no slash, even where it is all of
the path. -/
theorem not_slash_mem_baseName
    (h : ['.', 'o'] <:+ (baseName text).toList) :
    '/' ∉ (baseName text).toList := by
  rcases baseName_cases text with ⟨hall, hself⟩ | ⟨hends, -⟩
  · rw [hself] at h ⊢
    intro hmem
    cases hcut : Text.cutLast '/' text.toList with
    | none => exact Text.cutLast_eq_none_iff.1 hcut hmem
    | some halves =>
        obtain ⟨before, last⟩ := halves
        obtain ⟨htext, hlast⟩ := Text.cutLast_eq_some_iff.1 hcut
        have hextension : ['.', 'o'] <:+ last :=
          Text.suffix_of_suffix_append_cons (by decide) (htext ▸ h)
        obtain ⟨stem, rfl⟩ := hextension
        have hheard : isSilent (stem ++ ['.', 'o']) = false := by
          unfold isSilent
          simp [List.append_eq_singleton_iff]
        have hends : EndsIn text.toList (stem ++ ['.', 'o']) :=
          ⟨⟨before ++ ['/'], [], by simp [htext], .inr ⟨before, rfl⟩, .nil⟩,
            hlast, hheard⟩
        -- but the only component it could be ends in a dot
        have hend := congrArg List.getLast? (hall _ hends)
        rw [List.getLast?_append] at hend
        cases hend
  · exact hends.noSlash

end Path

namespace ObjectFile

open LinkOrder.Path (baseName EndsIn)

variable {descriptor library member : String}

/-- The descriptor takes apart as a library and its member. -/
def Splits (descriptor library member : String) : Prop :=
  descriptor = library ++ "(" ++ member ++ ")" ∧ '(' ∉ member.toList

/-- A descriptor takes apart as it is read: it has to end in a closing
parenthesis, and is cut at the last one that opens. -/
theorem splits_iff :
    Splits descriptor library member
      ↔ member? descriptor.toList
        = some (library.toList, member.toList) := by
  rw [member?_eq_some_iff, Splits, ← String.toList_inj]
  simp

/-- A descriptor takes apart in one way at most. -/
theorem Splits.unique {library' member' : String}
    (h : Splits descriptor library member)
    (h' : Splits descriptor library' member') :
    library = library' ∧ member = member' := by
  have heq := (splits_iff.1 h).symm.trans (splits_iff.1 h')
  rw [Option.some.injEq, Prod.mk.injEq] at heq
  exact ⟨String.toList_inj.1 heq.1, String.toList_inj.1 heq.2⟩

/-- What an object file in a library is made of. -/
theorem Splits.ofDescriptor_eq (h : Splits descriptor library member) :
    ofDescriptor descriptor
      = ⟨library, baseName member, some (baseName library)⟩ := by
  unfold ofDescriptor
  rw [splits_iff.1 h]
  dsimp only
  rw [String.ofList_toList, String.ofList_toList]
  rfl

/-- What any other object file is made of. -/
theorem ofDescriptor_eq_of_not_splits
    (h : ∀ library member, ¬ Splits descriptor library member) :
    ofDescriptor descriptor = ⟨descriptor, baseName descriptor, none⟩ := by
  have hnone : member? descriptor.toList = none := by
    -- if it were read as a library and a member, it would take apart so
    cases hmember : member? descriptor.toList with
    | none => rfl
    | some halves =>
        refine absurd (splits_iff.2 ?_)
          (h (String.ofList halves.1) (String.ofList halves.2))
        rw [String.toList_ofList, String.toList_ofList]
        exact hmember
  unfold ofDescriptor
  rw [hnone]
  rfl

/-- What stands at the end of a descriptor takes apart only if the
descriptor does. -/
theorem Splits.of_suffix {tail : String}
    (hsuffix : tail.toList <:+ descriptor.toList)
    (h : Splits tail library member) :
    ∃ library, Splits descriptor library member := by
  obtain ⟨front, hfront⟩ := hsuffix
  obtain ⟨rfl, hmember⟩ := h
  refine ⟨String.ofList front ++ library, ?_, hmember⟩
  rw [← String.toList_inj, ← hfront]
  simp

/-- A qualifier is a file name with the extension of object files. -/
theorem suffix_of_qualifier? {object : ObjectFile} {qualifier : String}
    (h : object.qualifier? = some qualifier) :
    object.file = qualifier ∧ ['.', 'o'] <:+ qualifier.toList := by
  unfold qualifier? at h
  split at h
  · next hsuffix =>
      cases h
      exact ⟨rfl, List.isSuffixOf_iff_suffix.1 hsuffix⟩
  · cases h

/-- Object files of the same names: in the same library, if any, and shown
alike. -/
structure SameNames (object other : ObjectFile) : Prop where
  file : object.file = other.file
  library : object.library = other.library
  qualifier? : object.qualifier? = other.qualifier?
  display : object.display = other.display

/-- All that is shown of an object file are its names. -/
theorem sameNames_of_eq {object other : ObjectFile}
    (hfile : object.file = other.file)
    (hlibrary : object.library = other.library) :
    object.SameNames other where
  file := hfile
  library := hlibrary
  qualifier? := by
    unfold ObjectFile.qualifier?
    rw [hfile]
  display := by
    unfold ObjectFile.display
    rw [hfile, hlibrary]

/-- What is shown of an object file describes one of the same names. -/
theorem sameNames_ofDescriptor_display
    (hslash : ¬ ['/'] <:+ descriptor.toList)
    (hdot : ¬ ['/', '.'] <:+ descriptor.toList) :
    (ofDescriptor (ofDescriptor descriptor).display).SameNames
      (ofDescriptor descriptor) := by
  -- a library and its member are shown as such; a path is shown by its base
  -- name, which takes apart only if the path does
  by_cases h : ∃ library member, Splits descriptor library member
  · obtain ⟨library, member, hsplits⟩ := h
    have hshown : Splits (baseName library ++ "(" ++ baseName member ++ ")")
        (baseName library) (baseName member) :=
      ⟨rfl, fun hmem => hsplits.2 (Path.mem_of_mem_baseName hmem)⟩
    rw [hsplits.ofDescriptor_eq]
    dsimp only [display]
    rw [hshown.ofDescriptor_eq]
    refine sameNames_of_eq ?_ ?_
    · exact Path.baseName_baseName member
    · exact congrArg some (Path.baseName_baseName library)
  · have hwhole : ∀ library member, ¬ Splits descriptor library member :=
      fun library member hsplits => h ⟨library, member, hsplits⟩
    have hbase : ∀ library member,
        ¬ Splits (baseName descriptor) library member := by
      intro library member hsplits
      obtain ⟨above, habove⟩ :=
        hsplits.of_suffix (Path.baseName_suffix hslash hdot)
      exact hwhole above member habove
    rw [ofDescriptor_eq_of_not_splits hwhole]
    dsimp only [display]
    rw [ofDescriptor_eq_of_not_splits hbase]
    exact sameNames_of_eq (Path.baseName_baseName descriptor) rfl

/-- A descriptor of the form `library(member)`, with no parenthesis opened
in the member, takes apart in that one way and names the member of that
library; every other one names the file at a path. Of each path the base
name is kept: the component that the path ends in, which says something and
has no slash, or the path itself, and nothing changes when it is taken
again. So what stands in front of a qualified name ends in `.o` and has no
slash. And unless a descriptor ends in a slash, or in a dot behind one,
what is shown of its object file describes one of the same names. -/
theorem ofDescriptor_exact (descriptor : String) :
    (∀ library member, Splits descriptor library member →
        ofDescriptor descriptor
          = ⟨library, baseName member, some (baseName library)⟩
        ∧ ∀ library' member', Splits descriptor library' member' →
          library = library' ∧ member = member')
      ∧ ((∀ library member, ¬ Splits descriptor library member) →
        ofDescriptor descriptor = ⟨descriptor, baseName descriptor, none⟩)
      ∧ (∀ path, baseName (baseName path) = baseName path
        ∧ (baseName path = path
            ∧ (∀ name, EndsIn path.toList name → name = ['.', '.'])
          ∨ EndsIn path.toList (baseName path).toList
            ∧ baseName path ≠ "" ∧ '/' ∉ (baseName path).toList))
      ∧ (∀ file library qualifier,
        (ofPath file library).qualifier? = some qualifier →
          ".o".toList <:+ qualifier.toList ∧ '/' ∉ qualifier.toList)
      ∧ (∀ qualifier, (ofDescriptor descriptor).qualifier? = some qualifier →
        ".o".toList <:+ qualifier.toList ∧ '/' ∉ qualifier.toList)
      ∧ (¬ ['/'] <:+ descriptor.toList →
        ¬ ['/', '.'] <:+ descriptor.toList →
          (ofDescriptor (ofDescriptor descriptor).display).SameNames
            (ofDescriptor descriptor)) := by
  -- a form for the linker is a base name that ends in `.o`, whether of a path
  -- or of a member
  have hqualifier : ∀ file library qualifier,
      (ofPath file library).qualifier? = some qualifier →
        ".o".toList <:+ qualifier.toList ∧ '/' ∉ qualifier.toList := by
    intro file library qualifier h
    obtain ⟨hfile, hsuffix⟩ := suffix_of_qualifier? h
    refine ⟨hsuffix, ?_⟩
    rw [← hfile] at hsuffix ⊢
    exact Path.not_slash_mem_baseName hsuffix
  refine ⟨?_, ofDescriptor_eq_of_not_splits, ?_, hqualifier, ?_,
    sameNames_ofDescriptor_display⟩
  · intro library member hsplits
    exact ⟨hsplits.ofDescriptor_eq, fun _ _ h => hsplits.unique h⟩
  · intro path
    refine ⟨Path.baseName_baseName path, ?_⟩
    rcases Path.baseName_cases path with ⟨hall, hself⟩ | ⟨hends, -⟩
    · exact .inl ⟨hself, hall⟩
    · refine .inr ⟨hends, fun hnil => hends.ne_nil ?_, hends.noSlash⟩
      rw [hnil]
      rfl
  · intro qualifier h
    unfold ofDescriptor at h
    split at h
    · exact hqualifier _ _ _ h
    · exact hqualifier _ _ _ h

/-- Parentheses in the path of a library belong to it, and a pair that
closes before the end holds no member. -/
theorem ofDescriptor_exact_nested :
    Splits "/x/lib(1).a(d/f.o)" "/x/lib(1).a" "d/f.o"
      ∧ ofDescriptor "/x/lib(1).a(d/f.o)"
        = ⟨"/x/lib(1).a", "f.o", some "lib(1).a"⟩
      ∧ ofDescriptor "x(y)/f.o" = ⟨"x(y)/f.o", "f.o", none⟩
      ∧ (".o".toList <:+ "f.o".toList ∧ '/' ∉ "f.o".toList)
      ∧ (ofDescriptor (ofDescriptor "/x/lib(1).a(d/f.o)").display).SameNames
        (ofDescriptor "/x/lib(1).a(d/f.o)") := by
  have hsplits : Splits "/x/lib(1).a(d/f.o)" "/x/lib(1).a" "d/f.o" :=
    ⟨by decide +kernel, by decide +kernel⟩
  have hwhole : ∀ library member, ¬ Splits "x(y)/f.o" library member := by
    intro library member h
    have hnone : member? "x(y)/f.o".toList = none := by decide +kernel
    rw [splits_iff, hnone] at h
    cases h
  have hmember : baseName "d/f.o" = "f.o" := by decide +kernel
  have hlibrary : baseName "/x/lib(1).a" = "lib(1).a" := by decide +kernel
  have hfile : baseName "x(y)/f.o" = "f.o" := by decide +kernel
  obtain ⟨hparts, -, -, -, hqualifier, hshown⟩ :=
    ofDescriptor_exact "/x/lib(1).a(d/f.o)"
  have hpath := (ofDescriptor_exact "x(y)/f.o").2.1 hwhole
  have hobject := (hparts _ _ hsplits).1
  rw [hmember, hlibrary] at hobject
  rw [hfile] at hpath
  refine ⟨hsplits, hobject, hpath, hqualifier "f.o" ?_,
    hshown (by decide +kernel) (by decide +kernel)⟩
  rw [hobject]
  decide +kernel

end ObjectFile

end LinkOrder
