import TextParsers.Log.Record

/-!
# Which records are shown

A setting chooses the records that reach the console. It is a level (`info`),
a target, or both with an equals sign between them (`target=debug`). A level
admits itself and whatever is more severe, the level `off` nothing; a target
admits the records whose target begins with it. Without a usable setting
errors alone are shown.
-/

namespace TextParsers

/-- The records that are shown: those whose target begins with `scope` and that are no more
detailed than `limit`; without a limit none. -/
structure Filter where
  scope : String
  limit : Option Level

namespace Filter

/-- Shows errors alone. -/
def errorsOnly : Filter := ⟨"", some .error⟩

/-- Whether a record is shown. -/
def admits (f : Filter) (r : Record) : Bool :=
  f.scope.toList.isPrefixOf r.target.toList &&
    match f.limit with
    | some limit => r.level.detail ≤ limit.detail
    | none => false

/-- A level by its name in upper or lower case, or `off`. -/
def limit? (word : String) : Option (Option Level) :=
  let upper := word.map Char.toUpper
  if upper = "OFF" then some none
  else (Level.all.find? fun level => level.name = upper).map some

/-- The filter that a setting asks for. -/
def ofSetting (setting : String) : Filter :=
  let scope := String.ofList (setting.toList.takeWhile (· ≠ '='))
  match setting.toList.dropWhile (· ≠ '=') with
  | [] =>
      if scope.isEmpty then errorsOnly
      else
        match limit? scope with
        | some limit => ⟨"", limit⟩
        | none => ⟨scope, some .trace⟩
  | _ :: word =>
      match limit? (String.ofList word) with
      | some limit => ⟨scope, limit⟩
      | none => errorsOnly

end Filter

end TextParsers
