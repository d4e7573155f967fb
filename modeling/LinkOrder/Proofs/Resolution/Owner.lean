/-
The image that owns an address of a run. A resolver sorts the images by
descending load address and takes the first that was not loaded above the
address; what it thereby finds is, among the images at or below the
address, one of the greatest load address, and of several such the first
listed (`owner?_byLoadAddress_eq_some_iff`).

The second half rests on the sort being stable: images of one load address
are in the sorted list what they are in the listed one
(`filter_byLoadAddress`), so the first of them in the one is the first in
the other. Whether an image owns an address is thus settled without the
sort, by its place in the list as it was given (`owns_iff`).
-/
import LinkOrder.Resolution
import Mathlib.Data.List.Basic

namespace LinkOrder.Resolution

/-- The image owns the address: it was loaded at or below it, and of the
images of which that is so, those listed before it were loaded lower, and
those listed behind it no higher. -/
def Owns (images : List LoadedImage) (address : UInt64)
    (image : LoadedImage) : Prop :=
  ∃ before behind, images = before ++ image :: behind
    ∧ image.loadAddress ≤ address
    ∧ (∀ other ∈ before, other.loadAddress ≤ address →
        other.loadAddress < image.loadAddress)
    ∧ ∀ other ∈ behind, other.loadAddress ≤ address →
        other.loadAddress ≤ image.loadAddress

section
variable {images : List LoadedImage} {address : UInt64}
  {image : LoadedImage}

-- ======================================================= the owner, listed

/-- An owner is the first of its load address, which is the greatest that
is not above the address. -/
theorem owns_iff :
    Owns images address image
      ↔ image.loadAddress ≤ address
        ∧ (∀ other ∈ images, other.loadAddress ≤ address →
            other.loadAddress ≤ image.loadAddress)
        ∧ images.find? (fun other =>
            other.loadAddress = image.loadAddress) = some image := by
  constructor
  · intro howns
    obtain ⟨before, behind, rfl, hat, hbefore, hbehind⟩ := howns
    refine ⟨hat, fun other hother hbelow => ?_, ?_⟩
    · rcases List.mem_append.1 hother with hmem | hmem
      · exact UInt64.le_of_lt (hbefore other hmem hbelow)
      · rcases List.mem_cons.1 hmem with rfl | hmem
        · exact UInt64.le_refl _
        · exact hbehind other hmem hbelow
    · rw [List.find?_eq_some_iff_append]
      refine ⟨by simp, before, behind, rfl, fun other hother => ?_⟩
      simp only [Bool.not_eq_true', decide_eq_false_iff_not]
      intro hsame
      -- an image before this one and loaded at the same address would own it
      have hlt := hbefore other hother (by rw [hsame]; exact hat)
      rw [hsame] at hlt
      exact UInt64.lt_irrefl _ hlt
  · intro hfirst
    obtain ⟨hat, hgreatest, hfind⟩ := hfirst
    obtain ⟨-, before, behind, rfl, hbefore⟩ :=
      List.find?_eq_some_iff_append.1 hfind
    refine ⟨before, behind, rfl, hat, fun other hother hbelow => ?_,
      fun other hother => hgreatest other (by simp [hother])⟩
    have hle := hgreatest other (by simp [hother]) hbelow
    have hne : other.loadAddress ≠ image.loadAddress := by
      simpa using hbefore other hother
    exact UInt64.lt_of_le_of_ne hle hne

/-- No address has two owners. -/
theorem Owns.unique {other : LoadedImage} (h : Owns images address image)
    (h' : Owns images address other) : image = other := by
  obtain ⟨hat, hgreatest, hfind⟩ := owns_iff.1 h
  obtain ⟨hload, hgreatest', hfind'⟩ := owns_iff.1 h'
  have hsame : other.loadAddress = image.loadAddress :=
    UInt64.le_antisymm
      (hgreatest other (List.mem_of_find?_eq_some hfind') hload)
      (hgreatest' image (List.mem_of_find?_eq_some hfind) hat)
  rw [hsame, hfind] at hfind'
  exact Option.some_inj.1 hfind'

-- ========================================================== the sort

/-- Sorting loses no image and adds none. -/
theorem byLoadAddress_perm (images : List LoadedImage) :
    (byLoadAddress images).Perm images :=
  List.mergeSort_perm _ _

/-- So the sorted images are the images. -/
theorem mem_byLoadAddress :
    image ∈ byLoadAddress images ↔ image ∈ images :=
  (byLoadAddress_perm images).mem_iff

/-- Descending load addresses are an order in which any two images can be
compared. -/
theorem descending_trans (a b c : LoadedImage)
    (hab : decide (b.loadAddress ≤ a.loadAddress) = true)
    (hbc : decide (c.loadAddress ≤ b.loadAddress) = true) :
    decide (c.loadAddress ≤ a.loadAddress) = true := by
  simp only [decide_eq_true_eq] at hab hbc ⊢
  exact UInt64.le_trans hbc hab

/-- Any two load addresses can be compared, which is what sorting asks
for. -/
theorem descending_total (a b : LoadedImage) :
    (decide (b.loadAddress ≤ a.loadAddress)
      || decide (a.loadAddress ≤ b.loadAddress)) = true := by
  simpa using UInt64.le_total b.loadAddress a.loadAddress

/-- The images come by descending load address. -/
theorem pairwise_byLoadAddress (images : List LoadedImage) :
    (byLoadAddress images).Pairwise fun image lower =>
      lower.loadAddress ≤ image.loadAddress := by
  have hsorted := List.pairwise_mergeSort descending_trans descending_total
    images
  exact hsorted.imp of_decide_eq_true

/-- Images of one load address keep their order. -/
theorem filter_byLoadAddress (images : List LoadedImage) (load : UInt64) :
    (byLoadAddress images).filter (fun image => image.loadAddress = load)
      = images.filter fun image => image.loadAddress = load := by
  -- images of one load address are in order already, so a stable sort leaves
  -- them so
  have hequal : (images.filter fun image =>
      image.loadAddress = load).Pairwise fun a b =>
        decide (b.loadAddress ≤ a.loadAddress) = true := by
    rw [List.pairwise_filter]
    refine List.pairwise_of_forall fun a b ha hb => ?_
    simp only [decide_eq_true_eq] at ha hb ⊢
    rw [ha, hb]
    exact UInt64.le_refl _
  have hsub := List.sublist_mergeSort descending_trans descending_total
    hequal List.filter_sublist
  have hlength := ((byLoadAddress_perm images).filter fun image =>
    image.loadAddress = load).length_eq
  have hfiltered := hsub.filter fun image => image.loadAddress = load
  rw [List.filter_filter] at hfiltered
  simp only [Bool.and_self] at hfiltered
  exact (hfiltered.eq_of_length hlength.symm).symm

/-- Of several images of one load address the first in the list is found,
as sorting is stable. -/
theorem find?_byLoadAddress (images : List LoadedImage) (load : UInt64) :
    (byLoadAddress images).find? (fun image => image.loadAddress = load)
      = images.find? fun image => image.loadAddress = load := by
  rw [← List.head?_filter, filter_byLoadAddress, List.head?_filter]

-- ==================================================== the owner, sorted

/-- The first image of the sorted list that was not loaded above the
address owns it. -/
theorem owns_of_owner? (h : owner? (byLoadAddress images) address
    = some image) : Owns images address image := by
  obtain ⟨hat, above, below, hsplit, habove⟩ :=
    List.find?_eq_some_iff_append.1 h
  have hat : image.loadAddress ≤ address := by simpa using hat
  have habove : ∀ other ∈ above, ¬ other.loadAddress ≤ address := by
    simpa using habove
  have hsorted := pairwise_byLoadAddress images
  rw [hsplit] at hsorted
  refine owns_iff.2 ⟨hat, fun other hother hbelow => ?_, ?_⟩
  · have hmem : other ∈ above ++ image :: below := by
      rw [← hsplit]
      exact mem_byLoadAddress.2 hother
    -- what stands above it was loaded above the address, and what stands below
    -- it no higher
    rcases List.mem_append.1 hmem with hmem | hmem
    · exact absurd hbelow (habove other hmem)
    · rcases List.mem_cons.1 hmem with rfl | hmem
      · exact UInt64.le_refl _
      · have hbehind := (List.pairwise_append.1 hsorted).2.1
        exact (List.pairwise_cons.1 hbehind).1 other hmem
  · -- in the sorted list it is the first of its load address
    rw [← find?_byLoadAddress, hsplit, List.find?_append]
    have hnone : above.find? (fun other =>
        other.loadAddress = image.loadAddress) = none := by
      rw [List.find?_eq_none]
      intro other hother hsame
      refine habove other hother ?_
      rw [of_decide_eq_true hsame]
      exact hat
    rw [hnone]
    simp

/-- Only an address below all images has no owner. -/
theorem owner?_byLoadAddress_eq_none_iff :
    owner? (byLoadAddress images) address = none
      ↔ ∀ image ∈ images, address < image.loadAddress := by
  unfold owner?
  rw [List.find?_eq_none]
  simp only [mem_byLoadAddress, decide_eq_true_eq, UInt64.not_le]

/-- What is found in the sorted list is the owner. -/
theorem owner?_byLoadAddress_eq_some_iff :
    owner? (byLoadAddress images) address = some image
      ↔ Owns images address image := by
  constructor
  · exact owns_of_owner?
  · intro howns
    obtain ⟨hat, -, hfind⟩ := owns_iff.1 howns
    -- something is found, and no address has two owners
    cases hfound : owner? (byLoadAddress images) address with
    | none =>
        have hnone := owner?_byLoadAddress_eq_none_iff.1 hfound
        have hlt := hnone image (List.mem_of_find?_eq_some hfind)
        exact absurd hat (UInt64.not_le.2 hlt)
    | some found =>
        rw [(owns_of_owner? hfound).unique howns]

end

end LinkOrder.Resolution
