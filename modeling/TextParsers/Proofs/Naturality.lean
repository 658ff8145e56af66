import TextParsers.Proofs.Lockstep
import TextParsers.Proofs.Takes

/-!
# Values are carried along

A repetition never looks at the values that it collects. So it makes no
difference whether a function is applied to each value as it is found or to the
whole list in the end, and a function put on a separator makes no difference at
all.

To have had a function applied is a case of going in lockstep: the graph of the
function relates the values, and the messages are equal (`lockstep_graph_iff`).
That both loops go through the same rounds, stop at the same text for the same
reason and make the same records is then what is known of any two loops in
lockstep. All that is left to say is that two lists are related by the graph,
item by item, just when one is the image of the other.
-/

namespace TextParsers

theorem Outcome.rel_graph_iff {α β : Type} {f : α → β} {o : Outcome β} {o' : Outcome α} :
    Outcome.Rel (fun b a => b = f a) Eq o o' ↔ o = o'.map f := by
  refine ⟨fun h => ?_, fun h => ?_⟩
  · cases h with
    | success r hb =>
        rw [hb]
        rfl
    | failure r he =>
        rw [he]
        rfl
  · rw [h]
    cases o' with
    | success a r => exact .success r rfl
    | failure e r => exact .failure r rfl

namespace Parser

variable {α β γ δ : Type} {p : Parser α} {q : Parser β}

/-- A parser goes in lockstep with another one whose values the function turns into its own just
when it is the other one with the function applied to its values. -/
theorem lockstep_graph_iff {f : α → β} :
    q.Lockstep (fun b a => b = f a) Eq p ↔ q = p.map f := by
  refine ⟨fun h => eq_of_apply_eq fun s => ?_, fun h s => ?_⟩
  · rw [apply_map]
    exact Logged.ext (Outcome.rel_graph_iff.1 (h s).value) (h s).records
  · rw [h, apply_map]
    exact ⟨Outcome.rel_graph_iff.2 rfl, rfl⟩

theorem lockstep_map (f : α → β) (p : Parser α) :
    (p.map f).Lockstep (fun b a => b = f a) Eq p :=
  lockstep_graph_iff.2 rfl

/-- Item by item in the graph of a function is as a whole in the graph of its `List.map`. -/
theorem forall₂_graph (f : α → β) :
    List.Forall₂ (fun b a => b = f a) = fun bs as => bs = as.map f := by
  funext bs as
  rw [← List.forall₂_eq_eq_eq, List.forall₂_map_right_iff]

theorem many_map (f : α → β) (p : Parser α) : (p.map f).many = p.many.map (List.map f) := by
  have h : (p.map f).many.Lockstep (List.Forall₂ fun b a => b = f a) Eq p.many :=
    (lockstep_map f p).many
  rw [forall₂_graph] at h
  exact lockstep_graph_iff.1 h

theorem separatedBy_map (f : α → γ) (g : β → δ) (item : Parser α) (separator : Parser β) :
    (item.map f).separatedBy (separator.map g) = (item.separatedBy separator).map (List.map f) := by
  have h : ((item.map f).separatedBy (separator.map g)).Lockstep
      (List.Forall₂ fun c a => c = f a) Eq (item.separatedBy separator) :=
    (lockstep_map f item).separatedBy (lockstep_map g separator)
  rw [forall₂_graph] at h
  exact lockstep_graph_iff.1 h

/-- Repetition commutes with changing values. On any text, the values of a repetition of a changed
parser are those of the repetition, each of them changed. The same holds of a separated list,
whatever is done to the values of the separator, and where the list fails its failure is the same,
message and place. What is left and what is noted on the way do not change either. -/
theorem repetition_commutes_with_map (item : Parser α) (separator : Parser β) (f : α → γ)
    (g : β → δ) (s : Text) :
    (item.map f).many.apply s =
        ⟨(item.many.apply s).value.map (List.map f), (item.many.apply s).records⟩ ∧
      ((item.map f).separatedBy (separator.map g)).apply s =
        ⟨((item.separatedBy separator).apply s).value.map (List.map f),
          ((item.separatedBy separator).apply s).records⟩ := by
  rw [many_map, separatedBy_map, apply_map, apply_map]
  exact ⟨rfl, rfl⟩

end Parser

end TextParsers
