/-
The configuration of a run: the libraries whose symbols are left alone,
how the symbols that were not observed are ordered, and which records are
shown. It is stored as a JSON record in which every field may be left out
and then keeps its default. Only valid configurations are used: without
empty exclusions, which would exclude every library, and with a level
that is known.
-/
import LinkOrder.Json.Shape
import LinkOrder.Json.Writer
import LinkOrder.Log.Record
import LinkOrder.Storage.Failure
import LinkOrder.Symbol

namespace LinkOrder

/-- The order of the symbols behind the separator of an order file. -/
inductive RemainingOrder where
  /-- Whatever order the table's symbols are given in. -/
  | unspecified
  /-- By ascending address. -/
  | address
deriving DecidableEq, Repr, Inhabited

/-- The name by which a configuration calls an order. -/
def RemainingOrder.name : RemainingOrder → String
  | unspecified => "unspecified"
  | address => "address"

/-- The orders by their names. -/
def RemainingOrder.byName : List (String × RemainingOrder) :=
  [(unspecified.name, unspecified), (address.name, address)]

/-- What a run goes by. -/
structure Config where
  excludedLibraries : List String := ["GoogleMobileAds"]
  remainingOrder : RemainingOrder := .unspecified
  logLevel : String := "info"
deriving DecidableEq, Repr, Inhabited

-- ============================================================== levels

/-- The text with its ASCII letters in lower case. A full lower casing
finds the same names of levels: these are made of ASCII letters, and the
only such letter that it makes of another character alone is the `k` of
the Kelvin sign, which no name of a level has. -/
def lowerCase (text : String) : String :=
  String.ofList (text.toList.map Char.toLower)

/-- The threshold of a name in lower case. -/
def Log.Threshold.named? : String → Option Log.Threshold
  | "error" => some (.upTo .error)
  | "warn" | "warning" => some (.upTo .warn)
  | "info" => some (.upTo .info)
  | "debug" => some (.upTo .debug)
  | "trace" => some (.upTo .trace)
  | "off" => some .off
  | _ => none

/-- The threshold of a name, in any case. -/
def Log.Threshold.ofName? (name : String) : Option Log.Threshold :=
  named? (lowerCase name)

/-- The threshold of a name; names that say nothing mean `info`. -/
def Log.Threshold.ofName (name : String) : Log.Threshold :=
  (ofName? name).getD (.upTo .info)

namespace Config

/-- The levels that a configuration may name. -/
def knownLevels : List String :=
  ["off", "error", "warn", "warning", "info", "debug", "trace"]

-- ============================================================= changes

/-- Excludes one more library. -/
def exclude (config : Config) (start : String) : Config :=
  { config with
    excludedLibraries := config.excludedLibraries ++ [start] }

/-- Excludes no library. -/
def withoutExclusions (config : Config) : Config :=
  { config with excludedLibraries := [] }

/-- Which symbols may be ordered. -/
def eligibility (config : Config) : Eligibility :=
  ⟨config.excludedLibraries⟩

-- ============================================================ validity

/-- Why a configuration is no good. -/
inductive Invalid where
  | emptyExclusion
  | unknownLevel (level : String)
deriving DecidableEq, Repr

/-- What is wrong with a configuration. -/
def Invalid.message : Invalid → String
  | emptyExclusion => "excluded library prefixes must not be empty"
  | unknownLevel level => "unknown log level: " ++ level

/-- Accepts a configuration that may be used. -/
def validate (config : Config) : Except Invalid Unit :=
  if config.excludedLibraries.any (· = "") then
    .error .emptyExclusion
  else if lowerCase config.logLevel ∉ knownLevels then
    .error (.unknownLevel config.logLevel)
  else .ok ()

-- ================================================================ JSON

/-- A configuration of which some fields have been read. -/
structure Partial where
  excludedLibraries : Option (List String) := none
  remainingOrder : Option RemainingOrder := none
  logLevel : Option String := none
deriving Repr

/-- The configuration, with defaults for what was not given. -/
def Partial.complete (given : Partial) : Config :=
  let default : Config := {}
  { excludedLibraries :=
      given.excludedLibraries.getD default.excludedLibraries
    remainingOrder := given.remainingOrder.getD default.remainingOrder
    logLevel := given.logLevel.getD default.logLevel }

/-- How a configuration is read from JSON. -/
def shape : Json.Shape Partial Config where
  name := "Config"
  blank := {}
  fields :=
    [ { name := "excluded_library_prefixes"
        isFilled := fun given => given.excludedLibraries.isSome
        read := fun given =>
          (Json.Reader.list Json.Reader.string).map fun starts =>
            { given with excludedLibraries := some starts } },
      { name := "remaining_order"
        isFilled := fun given => given.remainingOrder.isSome
        read := fun given =>
          (Json.Reader.variant "`unspecified` or `address`"
              RemainingOrder.byName).map fun order =>
            { given with remainingOrder := some order } },
      { name := "log_level"
        isFilled := fun given => given.logLevel.isSome
        read := fun given =>
          Json.Reader.string.map fun level =>
            { given with logLevel := some level } } ]
  mayEndEarly := true
  finish := fun given => .ok given.complete

/-- The configuration that a JSON text holds, valid or not. -/
def ofJson (text : String) : Except Json.Error Config :=
  shape.reader.readWhole text

/-- A configuration as JSON in compact form. -/
def toJson (config : Config) : String :=
  String.ofList (Json.writeObject
    [("excluded_library_prefixes",
        Json.writeList
          (config.excludedLibraries.map Json.writeString)),
      ("remaining_order", Json.writeString config.remainingOrder.name),
      ("log_level", Json.writeString config.logLevel)])

-- ============================================================== errors

/-- Why a configuration cannot be had. -/
inductive Error where
  | notFound (path : String)
  | io (failure : Storage.Failure)
  | parse (error : Json.Error)
  | invalid (reason : Invalid)
deriving DecidableEq, Repr

namespace Error

/-- What an error says. -/
def message : Error → String
  | notFound path => "Config file not found: " ++ Text.quoted path
  | io failure => "IO error: " ++ failure.message
  | parse error => "Parse error: " ++ error.message
  | invalid reason => "Invalid config: " ++ reason.message

/-- What an error and its causes say. -/
def chain : Error → List String
  | notFound path => [message (notFound path)]
  | io failure => [message (io failure), failure.message]
  | parse error => [message (parse error), error.message]
  | invalid reason => [message (invalid reason)]

end Error

end Config

end LinkOrder
