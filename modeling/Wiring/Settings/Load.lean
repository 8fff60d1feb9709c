/-
  Loading settings from a file and the environment.

  1. Every setting is given under a key, by the file or by a variable whose name starts with the
     program's prefix in letters of any case; of two that give the same one the later counts, and
     the environment comes after the file.
  2. A switch may be a truth value, a number, which is on unless it is zero, or a word for on or
     off in letters of any case.  A null leaves it as it was.
  3. Anything else is refused, and the refusal says what was found, what for, and where.  Tables
     are put together from what is given for them, so none comes from any one place.
-/
import Wiring.Settings.Basic
import Wiring.Settings.Reader
import Wiring.Settings.Key
import Wiring.Text.Lowercase
import Wiring.Text.Quoted

namespace Wiring

/-- `Place` — where a setting was given. -/
inductive Place where
  | file
  | environment
  deriving DecidableEq, Repr

/-- `p.name` — the place as messages have it. -/
def Place.name : Place → String
  | file => "weft.json"
  | environment => "the environment"

/-- `Found` — something that is no switch. -/
inductive Found where
  | text (value : String)
  | sequence
  | table
  deriving DecidableEq, Repr

/-- `f.description` — what was found, as messages have it. -/
def Found.description : Found → String
  | text value => "string " ++ Text.quote value
  | sequence => "sequence"
  | table => "map"

/-- `Misfit` — why settings cannot be loaded. -/
inductive Misfit where
  /-- The file is no document. -/
  | unreadable
  /-- The value of a switch is none. -/
  | notASwitch (found : Found) (key : String) (place : Option Place)
  deriving DecidableEq, Repr

/-- `m.message` — the misfit in words. -/
def Misfit.message : Misfit → String
  | unreadable => "the settings file is not a document"
  | notASwitch found key place =>
    let origin := match place with
      | none => ""
      | some p => " in " ++ p.name
    "invalid type: " ++ found.description ++ ", expected a boolean for key \x60" ++ key ++ "\x60" ++
      origin

namespace Settings

/-- `Given` — the value of a setting, and the place that gave it, if one place did. -/
structure Given where
  value : Document
  place : Option Place

/-- `put place key d earlier` — what a name has after `d` was given for `key`, where `earlier` is
    what it had before.  A table is given entry by entry, so an empty one leaves what there is. -/
def put (place : Place) (key : Key) (d : Document) (earlier : Option Given) : Given :=
  match key.inner, d, earlier with
  | some .sequence, _, some ⟨.sequence items, origin⟩ => ⟨.sequence items, origin⟩
  | some .sequence, _, _ => ⟨.sequence [d], none⟩
  | none, .table [], some earlier => earlier
  | some .table, _, _ | none, .table _, _ => ⟨.table [], none⟩
  | none, d, _ => ⟨d, some place⟩

/-- `given name place settings earlier` — what `name` has after the settings of a place, read in
    turn after what it had `earlier`. -/
def given (name : String) (place : Place) (settings : Table String Document)
    (earlier : Option Given) : Option Given :=
  settings.entries.foldl (fun earlier (key, d) =>
    if (Key.read key).name = name then some (put place (Key.read key) d earlier) else earlier)
    earlier

/-- `word? s` — the words for on and off. -/
def word? (s : String) : Option Bool :=
  if ["1", "true", "on", "yes"].contains s then some true
  else if ["0", "false", "off", "no"].contains s then some false
  else none

/-- `switch name g` — the switch called `name`, where `g` is given for it; none if it is left as it
    was. -/
def switch (name : String) (g : Option Given) : Except Misfit (Option Bool) :=
  match g with
  | none => .ok none
  | some ⟨d, place⟩ =>
    match d with
    | .null => .ok none
    | .bool b => .ok (some b)
    | .number x => .ok (some (x != 0))
    | .text s =>
      match word? (Text.lowercase s) with
      | some b => .ok (some b)
      | none => .error (.notASwitch (.text (Text.lowercase s)) name place)
    | .sequence _ => .error (.notASwitch .sequence name place)
    | .table _ => .error (.notASwitch .table name place)

/-- `variablePrefix` — what the names of the program's variables start with, in small letters. -/
def variablePrefix : List Char := "weft_".toList

/-- `ofVariable var` — the setting that an environment variable gives, if it is one of the
    program's. -/
def ofVariable (var : String × String) : Option (String × Document) :=
  let name := (Text.lowercase var.1).toList
  if variablePrefix.isPrefixOf name then
    some (String.ofList (name.drop variablePrefix.length), .text var.2)
  else none

/-- `load file environment` — the settings from the text of the settings file, if there is one, and
    the environment variables. -/
def load (file : Option String) (environment : List (String × String)) : Except Misfit Settings := do
  let document ← match file with
    | none => .ok Document.null
    | some s =>
      match Document.read? s with
      | some d => .ok d
      | none => .error Misfit.unreadable
  let find (name : String) : Option Given :=
    given name .environment (Table.ofList (environment.filterMap ofVariable))
      (given name .file document.entries none)
  let read (name : String) := switch name (find name)
  let strict ← read "strict_around_construct"
  let overriding ← read "allow_definition_overriding"
  return { strict := strict.getD false, overriding := overriding.getD false }

end Settings

end Wiring
