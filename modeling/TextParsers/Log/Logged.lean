import TextParsers.Log.Record

/-!
# Results with a log

A result together with the records that were made on the way to it, in order.
Running one computation after another puts their records one after another,
and nothing else looks at them.
-/

namespace TextParsers

/-- A result and the records made on the way to it. -/
structure Logged (β : Type) where
  value : β
  records : List Record

namespace Logged

variable {β γ : Type}

instance : Monad Logged where
  pure b := ⟨b, []⟩
  bind m f := ⟨(f m.value).value, m.records ++ (f m.value).records⟩

/-- Makes one record. -/
def note (r : Record) : Logged Unit := ⟨(), [r]⟩

theorem ext {m n : Logged β} (hv : m.value = n.value) (hr : m.records = n.records) : m = n := by
  cases m
  cases n
  cases hv
  cases hr
  rfl

@[simp] theorem value_pure (b : β) : (pure b : Logged β).value = b := rfl

@[simp] theorem records_pure (b : β) : (pure b : Logged β).records = [] := rfl

@[simp] theorem value_bind (m : Logged β) (f : β → Logged γ) :
    (m >>= f).value = (f m.value).value := rfl

@[simp] theorem records_bind (m : Logged β) (f : β → Logged γ) :
    (m >>= f).records = m.records ++ (f m.value).records := rfl

@[simp] theorem value_note (r : Record) : (note r).value = () := rfl

@[simp] theorem records_note (r : Record) : (note r).records = [r] := rfl

instance : LawfulMonad Logged :=
  LawfulMonad.mk' Logged
    (fun m => ext rfl (List.append_nil m.records))
    (fun b f => ext rfl rfl)
    (fun m f g => ext rfl (List.append_assoc _ _ _))

@[simp] theorem value_map (f : β → γ) (m : Logged β) : (f <$> m).value = f m.value := rfl

@[simp] theorem records_map (f : β → γ) (m : Logged β) : (f <$> m).records = m.records :=
  List.append_nil m.records

end Logged

end TextParsers
