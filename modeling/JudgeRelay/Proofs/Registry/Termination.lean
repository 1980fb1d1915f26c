import JudgeRelay.Proofs.Registry.Conservation

/-!
# Every registry operation ends

Dropping a judge can change the serving tier, which offers work to other judges, whose links
may refuse it and so drop them in turn: `remove`, `updateMinTier` and `handleFree` call one
another, and dispatching a request retries after each refusal. The model gives each of them
fuel. This module shows that the fuel never decides a result (`FuelSettles`): from a registry
with `n` judges, once the cascade has `3 * n` levels of fuel (one more to recompute the tier,
one fewer to remove a judge) and the retry loop `n + 1` rounds, more fuel changes nothing. So
the recursion without fuel ends within that many levels, and the operations, which start each
cascade with `Registry.fuel` of the registry as it stands, compute what it computes.

The measure is the one the recursion follows. A level of the cascade that goes deeper either
removes a live judge (the judge `handleFree` was offering work to, once its link refused), or
offers work from the registry it left (`remove` settling after the drop, `updateMinTier`
going through the judges it listed before the first offer); and no level adds a judge
(`shrinking_cascade`). A retry of the dispatch loop comes after removing the judge that
refused, which is live since it was chosen among the registry's judges.

Main result: `registry_operations_terminate`.
-/

namespace JudgeRelay

namespace Registry

variable {r : Registry} {id : JudgeId}

theorem find?_of_judges_nil (empty : r.judges.length = 0) : r.find? id = none :=
  find?_eq_none.2 fun _ member => absurd (List.length_pos_of_mem member) (by omega)

theorem offer_of_find?_none (absent : r.find? id = none) : r.offer id = none := by
  rw [offer, absent]

theorem orphanOf_of_find?_none (absent : r.find? id = none) : r.orphanOf id = none := by
  rw [orphanOf, absent]

/-- A judge of the registry is found by its id (perhaps as another judge of that id). -/
theorem find?_of_mem {j : Judge} (member : j ∈ r.judges) : ∃ k, r.find? j.id = some k := by
  rcases found : r.find? j.id with _ | k
  · exact (find?_eq_none.1 found j member rfl).elim
  · exact ⟨k, rfl⟩

end Registry

namespace RegistryOp

variable {α γ : Type}

/-- Running `op` with fuel `f` gives what it gives with any more fuel, from every state whose
measure is at most `f`: the fuel is never what stops it. -/
def FuelSettles (op : Nat → RegistryOp α) (measure : Registry → Nat) : Prop :=
  ∀ links s f g, measure s.1 ≤ f → f ≤ g → (op f).runOn links s = (op g).runOn links s

/-- It is enough that one more unit of fuel above the measure changes nothing. -/
theorem FuelSettles.of_succ {op : Nat → RegistryOp α} {measure : Registry → Nat}
    (step : ∀ links s f, measure s.1 ≤ f → (op f).runOn links s = (op (f + 1)).runOn links s) :
    FuelSettles op measure := by
  intro links s f g low le
  obtain ⟨d, rfl⟩ := Nat.exists_eq_add_of_le le
  induction d with
  | zero => rfl
  | succ d ih => rw [ih (Nat.le_add_right f d), ← Nat.add_assoc, step links s (f + d) (by omega)]

/-- Two loops agree when their steps agree on the states of a property that the steps keep. -/
theorem runOn_forM_congr {g g' : γ → RegistryOp Unit} (P : Registry × Outbox → Prop)
    (keeps : ∀ x links s, P s → P ((g x).runOn links s).2)
    (agree : ∀ x links s, P s → (g x).runOn links s = (g' x).runOn links s) :
    ∀ (xs : List γ) links s, P s → (xs.forM g).runOn links s = (xs.forM g').runOn links s := by
  intro xs
  induction xs with
  | nil => intro links s _; rfl
  | cons x xs ih =>
    intro links s holds
    rw [runOn_forM_cons, runOn_forM_cons, ← agree x links s holds]
    exact ih links _ (keeps x links s holds)

/-- One more level of fuel changes nothing in the cascade once the fuel covers three levels
per judge. The induction is on the fuel, the three functions together; each deeper call is
made from a registry with no more judges, and `remove` makes it from one with one judge
fewer. -/
theorem cascade_fuel_succ (f : Nat) :
    (∀ id links s, 3 * s.1.judges.length ≤ f →
      (handleFree id f).runOn links s = (handleFree id (f + 1)).runOn links s) ∧
    (∀ id links s, 3 * s.1.judges.length ≤ f + 1 →
      (remove id f).runOn links s = (remove id (f + 1)).runOn links s) ∧
    (∀ links s, 3 * s.1.judges.length + 1 ≤ f →
      (updateMinTier f).runOn links s = (updateMinTier (f + 1)).runOn links s) := by
  induction f with
  | zero =>
    refine ⟨fun id links s fuel => ?_, fun id links s fuel => ?_, fun links s fuel => by omega⟩
    · -- without fuel only a registry with no judge is in budget, and it offers nothing
      have absent : s.1.find? id = none := Registry.find?_of_judges_nil (by omega)
      rw [handleFree_zero, handleFree_succ, Registry.offer_of_find?_none absent]
    · have absent : s.1.find? id = none := Registry.find?_of_judges_nil (by omega)
      rw [remove_zero, remove_succ, absent, Registry.orphanOf_of_find?_none absent,
        Registry.drop_eq_self absent]
  | succ f ih =>
    obtain ⟨ihHandle, ihRemove, ihTier⟩ := ih
    refine ⟨fun id links s fuel => ?_, fun id links s fuel => ?_, fun links s fuel => ?_⟩
    · -- the only deeper call removes the judge offered work, from the same registry
      rw [handleFree_succ, handleFree_succ]
      rcases s.1.offer id with _ | ⟨j, req⟩
      · rfl
      · dsimp only
        split
        · rfl
        · rw [ihRemove id links s (by omega)]
    · rw [remove_succ, remove_succ]
      rcases found : s.1.find? id with _ | j
      · rfl
      · -- the judge is dropped, and the registry settles with one judge fewer
        have smaller := Registry.drop_length_lt found
        have settles : (settle f).runOn links (s.1.drop id, s.2) =
            (settle (f + 1)).runOn links (s.1.drop id, s.2) := by
          rw [runOn_settle, runOn_settle, ← ihTier links _ (by dsimp only; omega)]
          dsimp only
          have fewer := (shrinking_updateMinTier f links (s.1.drop id, s.2)).1.length_le
          generalize ((updateMinTier f).runOn links (s.1.drop id, s.2)).2 = s₁ at fewer ⊢
          rcases s₁.1.pool with _ | ⟨only, _ | ⟨k, rest⟩⟩
          · rfl
          · dsimp only
            split
            · exact ihHandle only.id links s₁ (by dsimp only at fewer; omega)
            · rfl
          · rfl
        dsimp only
        rw [settles]
    · rw [updateMinTier_succ, updateMinTier_succ]
      by_cases same : (s.1.minTier == s.1.lowestTier) = true
      · rw [if_pos same, if_pos same]
      · rw [if_neg same, if_neg same]
        by_cases widens : Registry.widens s.1.minTier s.1.lowestTier = true
        · -- each judge of the list is offered work from a registry no larger than this one
          rw [if_pos widens, if_pos widens]
          refine runOn_forM_congr (fun s' => 3 * s'.1.judges.length ≤ f) (fun i links s' low => ?_)
            (fun i links s' low => ihHandle i links s' low) _ links _
            (show 3 * s.1.judges.length ≤ f by omega)
          have fewer := (shrinking_handleFree i f links s').1.length_le
          omega
        · rw [if_neg widens, if_neg widens]

/-- One more round changes nothing in dispatching once there is a round for each judge and
one more: a round that does not end removes the judge that refused, a live one. -/
theorem dispatchLoop_fuel_succ (req : Request) (tie : TieBreak) :
    ∀ f links s, s.1.judges.length + 1 ≤ f →
      (dispatchLoop req tie f).runOn links s = (dispatchLoop req tie (f + 1)).runOn links s := by
  intro f
  induction f generalizing tie with
  | zero => intro links s fuel; omega
  | succ f ih =>
    intro links s fuel
    rw [dispatchLoop_succ, dispatchLoop_succ]
    rcases chosen : Registry.pickLeast (tie 0) (s.1.eligible req) with _ | j
    · rfl
    · dsimp only
      split
      · rfl
      · obtain ⟨member, -, -, -⟩ := Registry.mem_eligible (Registry.pickLeast_mem chosen)
        obtain ⟨k, found⟩ := Registry.find?_of_mem member
        have smaller : ((remove j.id s.1.fuel).runOn links s).2.1.judges.length <
            s.1.judges.length := remove_length_lt s.1.fuel found
        rw [ih _ links _ (by omega)]

end RegistryOp

open RegistryOp in
/-- Every registry operation ends. The dispatch cascade (`handleFree`, `remove`,
`updateMinTier`) and the dispatch loop compute, from every registry and whichever links are
open, what they compute with any more fuel, once they have three levels of fuel per judge
(one more to recompute the tier, one fewer to remove a judge) and one round per judge and one
more. The operations give them that much: each cascade starts with `Registry.fuel` of the
registry as it stands, and a dispatch of a request the registry does not know starts the loop
with one round more than there are judges. -/
theorem registry_operations_terminate :
    (∀ id, FuelSettles (handleFree id) fun r => 3 * r.judges.length) ∧
    (∀ id, FuelSettles (remove id) fun r => 3 * r.judges.length - 1) ∧
    FuelSettles updateMinTier (fun r => 3 * r.judges.length + 1) ∧
    (∀ req tie, FuelSettles (dispatchLoop req tie) fun r => r.judges.length + 1) ∧
    (∀ r : Registry, 3 * r.judges.length + 1 ≤ r.fuel) ∧
    ∀ req tie links s g, s.1.judges.length + 1 ≤ g →
      (dispatch req tie).runOn links s =
        if s.1.tracks req.id then (.duplicate, s) else (dispatchLoop req tie g).runOn links s := by
  have loop (req : Request) (tie : TieBreak) :
      FuelSettles (dispatchLoop req tie) fun r => r.judges.length + 1 :=
    .of_succ fun links s f low => dispatchLoop_fuel_succ req tie f links s low
  refine ⟨fun id => .of_succ fun links s f low => (cascade_fuel_succ f).1 id links s low,
    fun id => .of_succ fun links s f low => (cascade_fuel_succ f).2.1 id links s (by omega),
    .of_succ fun links s f low => (cascade_fuel_succ f).2.2 links s low, loop,
    Registry.fuel_ample, fun req tie links s g enough => ?_⟩
  rw [runOn_dispatch, loop req tie links s _ g (Nat.le_refl _) enough]

open RegistryOp in
/-- A judge registers and its link closes; dispatching a request it could grade with two
rounds gives what it gives with seven: the judge refuses, is removed, and the request
waits. -/
theorem registry_operations_terminate_past_closed_link :
    ((Call.register "a" 0 ["aplusb"] ["PY3"] false 1).run (fun _ => true)
        Registry.empty).1.judges.length + 1 ≤ 2 ∧ 2 ≤ 7 ∧
      (dispatchLoop ⟨7, "aplusb", "PY3", "", none, 1⟩ (fun _ => 0) 2).runOn (fun l => l != 1)
          (((Call.register "a" 0 ["aplusb"] ["PY3"] false 1).run (fun _ => true)
            Registry.empty).1, []) =
        (dispatchLoop ⟨7, "aplusb", "PY3", "", none, 1⟩ (fun _ => 0) 7).runOn (fun l => l != 1)
          (((Call.register "a" 0 ["aplusb"] ["PY3"] false 1).run (fun _ => true)
            Registry.empty).1, []) :=
  ⟨by decide, by decide, registry_operations_terminate.2.2.2.1 _ _ _ _ 2 7 (by decide) (by decide)⟩

end JudgeRelay
