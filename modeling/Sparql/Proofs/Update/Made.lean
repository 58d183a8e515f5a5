import Sparql.Proofs.Session.Frozen

/-!
# How operations are made

Every operation of a session does what an operation does that one of the calls for its kind makes.
-/

namespace Sparql.UpdateOperation

open Outcome

variable {operation : UpdateOperation}

/-- The calls that make operations. -/
theorem IsMade.calls (isMade : operation.IsMade) :
    (∃ data graph, insertData data graph = .ok operation) ∨
    (∃ data graph, deleteData data graph = .ok operation) ∨
    (∃ delete insert condition graph, deleteInsert delete insert condition graph = .ok operation) ∨
    (∃ source into silent, load source into silent = .ok operation) ∨
    (∃ graph target silent, clear graph target silent = .ok operation) ∨
    (∃ graph target silent, drop graph target silent = .ok operation) ∨
    (∃ graph silent, create graph silent = .ok operation) ∨
    ∃ silent, operation = ⟨.abstract, silent⟩ := by
  rcases isMade with ⟨kind, arguments, made⟩
  simp only [ofCall] at made
  split at made
  case h_9 => cases made
  all_goals
    rcases bind_eq_ok.mp made with ⟨values, _, made⟩
    split at made
    swap
    · cases made
  · exact .inl ⟨_, _, made⟩
  · exact .inr (.inl ⟨_, _, made⟩)
  · exact .inr (.inr (.inl ⟨_, _, _, _, made⟩))
  · exact .inr (.inr (.inr (.inl ⟨_, _, _, made⟩)))
  · exact .inr (.inr (.inr (.inr (.inl ⟨_, _, _, made⟩))))
  · exact .inr (.inr (.inr (.inr (.inr (.inl ⟨_, _, _, made⟩)))))
  · exact .inr (.inr (.inr (.inr (.inr (.inr (.inl ⟨_, _, made⟩))))))
  · exact .inr (.inr (.inr (.inr (.inr (.inr (.inr ⟨_, (pure_eq_ok.mp made).symm⟩))))))

/-! ## Checks -/

/-- Actions that pass the checks of the calls: data holds no variable, and one of two templates is not empty. -/
def IsChecked : UpdateAction → Prop
  | .insertData data _ | .deleteData data _ => ∀ pattern ∈ data, pattern.variableNames = []
  | .deleteInsert delete insert _ _ => delete ≠ [] ∨ insert ≠ []
  | _ => True

theorem variableNames_of_groundPatterns {keyword : String} {data : Value} {patterns : List Pattern}
    (isGround : groundPatterns keyword data = .ok patterns) : ∀ pattern ∈ patterns, pattern.variableNames = [] := by
  unfold groundPatterns at isGround
  split at isGround
  · cases isGround
  · simp only [bind_eq_ok] at isGround
    rcases isGround with ⟨found, _, isGround⟩
    split at isGround
    · cases isGround
    · next noVariables =>
        cases isGround
        simpa using noVariables

theorem IsMade.isChecked (isMade : operation.IsMade) : IsChecked operation.action := by
  rcases isMade.calls with ⟨data, graph, made⟩ | ⟨data, graph, made⟩ | ⟨delete, insert, condition, graph, made⟩ |
    ⟨source, into, silent, made⟩ | ⟨graph, target, silent, made⟩ | ⟨graph, target, silent, made⟩ |
    ⟨graph, silent, made⟩ | ⟨silent, rfl⟩
  · simp only [insertData, dataAndGraph, map_eq_ok, bind_eq_ok, pure_eq_ok] at made
    rcases made with ⟨_, ⟨patterns, isGround, _, _, rfl⟩, rfl⟩
    exact variableNames_of_groundPatterns isGround
  · simp only [deleteData, dataAndGraph, map_eq_ok, bind_eq_ok, pure_eq_ok] at made
    rcases made with ⟨_, ⟨patterns, isGround, _, _, rfl⟩, rfl⟩
    exact variableNames_of_groundPatterns isGround
  · simp only [deleteInsert, bind_eq_ok] at made
    rcases made with ⟨deleted, _, inserted, _, patterns, _, made⟩
    split at made
    · simp at made
    · next notEmpty =>
        simp only [bind_eq_ok, pure_eq_ok] at made
        rcases made with ⟨_, _, rfl⟩
        simp only [Bool.and_eq_true, List.isEmpty_iff] at notEmpty
        simp only [IsChecked]
        tauto
  · simp only [load, bind_eq_ok, pure_eq_ok] at made
    rcases made with ⟨_, _, _, _, rfl⟩
    trivial
  · rcases map_eq_ok.mp made with ⟨_, _, rfl⟩
    trivial
  · rcases map_eq_ok.mp made with ⟨_, _, rfl⟩
    trivial
  · rcases map_eq_ok.mp made with ⟨_, _, rfl⟩
    trivial
  · trivial

theorem IsBuilt.isChecked (isBuilt : operation.IsBuilt) : IsChecked operation.action := by
  rcases isBuilt with ⟨made, isMade, same⟩
  rw [same]
  exact isMade.isChecked

end Sparql.UpdateOperation
