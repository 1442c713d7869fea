import FailFast.Proofs.Management.Errands

/-!
# Callers side by side

A caller that has let go of the lock of a circuit has still to announce the transition that it made.
Other callers do not wait for this.  So anything can be done between a change of state and its
announcement, and callers may announce their transitions the other way round than they made them.

What always holds is that no caller forgets: of what a caller made, everyone was told by it in the
order in which it was made, and is told next of what is left.  As long as each transition is
announced before the next one is made, all are told of the changes in their order.

Main results:

- Theorem `Crowd.tells_move` and theorem `Crowd.tells_moves`: what each caller made is what it told
  and what it still has to tell.
- Theorem `Crowd.tells_inTurn` and theorem `Crowd.inTurn_alone`: if transitions are announced in
  turn, as they are by a single caller, everyone is told of the changes of state in their order.
- Theorem `Crowd.path_moves`: the changes of state of each circuit lead from one to the next.
- Theorem `Crowd.undisturbed`: a use that no other caller comes in between is the use as a whole.
-/

namespace FailFast

/-! ## Crowds -/

/-- A caller, with the circuit that it uses and what it has still to do there. -/
structure Caller where
  circuit : Nat
  errands : List Errand

/-- A registry with callers that use it side by side. -/
structure Crowd where
  management : Management
  callers : List Caller

/-- What goes on in a crowd. -/
inductive Crowd.Move where
  /-- Something is looked up or changed in the registry, or time passes. -/
  | prepare (d : Deed)
  /-- A caller that has nothing else to do begins to use a circuit. -/
  | start (caller i : Nat) (x : Use)
  /-- A caller does the next thing that it has to do. -/
  | proceed (caller : Nat)

/-- A change of state that a caller made. -/
structure Change where
  caller : Nat
  circuit : Nat
  transition : Transition
deriving DecidableEq

/-- A transition of which a caller told someone. -/
structure Telling where
  caller : Nat
  transition : Transition
deriving DecidableEq

/-- The telling of a change by the caller that made it. -/
def Change.telling (c : Change) : Telling := ⟨c.caller, c.transition⟩

namespace Caller

/-- What a caller has still to tell someone. -/
def owes (who : Audience) (c : Caller) : List Transition := c.errands.filterMap (Errand.told? who)

/-- Whether a caller has nothing more to tell anyone. -/
def isQuiet (c : Caller) : Bool := c.errands.all fun e => !e.isTelling

/-- It owes nothing then. -/
theorem owes_of_quiet {c : Caller} (h : c.isQuiet = true) (who : Audience) : c.owes who = [] := by
  rw [owes, List.filterMap_eq_nil_iff]
  intro e he
  have hsilent := List.all_eq_true.mp h e he
  cases e with
  | tell other t => cases hsilent
  | _ => rfl

end Caller

namespace Crowd

/-- A crowd in which no caller does anything yet. -/
def gathered (m : Management) (callers : Nat) : Crowd := ⟨m, List.replicate callers ⟨0, []⟩⟩

/-- Make a move; one that cannot be made does nothing. -/
def move (s : Crowd) : Move → Crowd
  | .prepare d => { s with management := s.management.prepare d }
  | .start caller i x =>
    match s.callers[caller]?, s.management.usage? i with
    | some ⟨_, []⟩, some u =>
      ⟨s.management.placed i (u.begun x), s.callers.set caller ⟨i, s.management.errands u x⟩⟩
    | _, _ => s
  | .proceed caller =>
    match s.callers[caller]? with
    | some ⟨i, e :: rest⟩ => ⟨s.management.carryOut i e, s.callers.set caller ⟨i, rest⟩⟩
    | _ => s

/-- Several moves in order. -/
def moves (s : Crowd) (as : List Move) : Crowd := as.foldl move s

/-- What a caller has still to tell someone. -/
def owed (s : Crowd) (who : Audience) (caller : Nat) : List Transition :=
  (s.callers[caller]?.map (·.owes who)).getD []

/-- What all callers have still to tell someone. -/
def owing (s : Crowd) (who : Audience) : List Transition := s.callers.flatMap (·.owes who)

/-- Whether no one has anything more to tell. -/
def isQuiet (s : Crowd) : Bool := s.callers.all (·.isQuiet)

/-! ## What happens in a crowd -/

/-- The change of state that a move makes. -/
def made (s : Crowd) : Move → List Change
  | .start caller i x =>
    match s.management.usage? i with
    | none => []
    | some u =>
      let after := (s.move (.start caller i x)).management.stateOf i
      if after = u.state then []
      else [⟨caller, i, ⟨u.circuit.breaker.name, u.state, after, u.now⟩⟩]
  | _ => []

/-- What someone is told by a move. -/
def told (who : Audience) (s : Crowd) : Move → List Telling
  | .proceed caller =>
    (((s.move (.proceed caller)).management.told who).drop (s.management.told who).length).map
      (⟨caller, ·⟩)
  | _ => []

/-- What happens along several moves. -/
def along {β : Type} (f : Crowd → Move → List β) : Crowd → List Move → List β
  | _, [] => []
  | s, a :: rest => f s a ++ along f (s.move a) rest

/-- The changes of state that several moves make, in their order. -/
def madeIn (s : Crowd) (as : List Move) : List Change := along made s as

/-- What someone is told by several moves, in its order. -/
def toldIn (who : Audience) (s : Crowd) (as : List Move) : List Telling := along (told who) s as

@[simp]
theorem madeIn_cons (s : Crowd) (a : Move) (rest : List Move) :
    s.madeIn (a :: rest) = s.made a ++ (s.move a).madeIn rest := rfl

@[simp]
theorem toldIn_cons (who : Audience) (s : Crowd) (a : Move) (rest : List Move) :
    s.toldIn who (a :: rest) = s.told who a ++ (s.move a).toldIn who rest := rfl

@[simp]
theorem moves_cons (s : Crowd) (a : Move) (rest : List Move) :
    s.moves (a :: rest) = (s.move a).moves rest := rfl

/-- What one caller made. -/
def madeBy (caller : Nat) (changes : List Change) : List Transition :=
  (changes.filter (·.caller = caller)).map Change.transition

/-- What one caller told. -/
def toldBy (caller : Nat) (tellings : List Telling) : List Transition :=
  (tellings.filter (·.caller = caller)).map Telling.transition

/-- What was made of one circuit. -/
def madeOf (circuit : Nat) (changes : List Change) : List Transition :=
  (changes.filter (·.circuit = circuit)).map Change.transition

@[simp]
theorem madeBy_append (caller : Nat) (before after : List Change) :
    madeBy caller (before ++ after) = madeBy caller before ++ madeBy caller after := by
  rw [madeBy, List.filter_append, List.map_append]
  rfl

@[simp]
theorem toldBy_append (caller : Nat) (before after : List Telling) :
    toldBy caller (before ++ after) = toldBy caller before ++ toldBy caller after := by
  rw [toldBy, List.filter_append, List.map_append]
  rfl

@[simp]
theorem madeOf_append (circuit : Nat) (before after : List Change) :
    madeOf circuit (before ++ after) = madeOf circuit before ++ madeOf circuit after := by
  rw [madeOf, List.filter_append, List.map_append]
  rfl

/-- What a move does: nothing that changes a state or tells anyone of anything, the first part of a
use, or one thing that a caller had to do. -/
inductive Does (s : Crowd) (a : Move) : Prop where
  | aside (hcallers : (s.move a).callers = s.callers) (hmade : s.made a = [])
      (htold : ∀ who, s.told who a = []) (hstate : ∀ i, (s.move a).management.stateOf i =
        s.management.stateOf i)
      (hsame : ∀ who ∈ s.management.registry.audience,
        (s.move a).management.told who = s.management.told who)
  | begins (caller i : Nat) (x : Use) (k : Nat) (u : Usage) (ha : a = .start caller i x)
      (hcaller : s.callers[caller]? = some ⟨k, []⟩) (hu : s.management.usage? i = some u)
      (hmove : s.move a =
        ⟨s.management.placed i (u.begun x), s.callers.set caller ⟨i, s.management.errands u x⟩⟩)
      (hmade : s.made a = (u.locked x).transition.toList.map (⟨caller, i, ·⟩))
      (htold : ∀ who, s.told who a = [])
  | goesOn (caller i : Nat) (e : Errand) (rest : List Errand)
      (hcaller : s.callers[caller]? = some ⟨i, e :: rest⟩)
      (hmove : s.move a = ⟨s.management.carryOut i e, s.callers.set caller ⟨i, rest⟩⟩)
      (hmade : s.made a = [])
      (htold : ∀ who, s.told who a = (e.told? who).toList.map (⟨caller, ·⟩))

/-- A move that cannot be made does nothing. -/
theorem does_of_stays {s : Crowd} {a : Move} (h : s.move a = s) : s.Does a := by
  refine .aside (by rw [h]) ?_ ?_ (fun i => by rw [h]) (fun who _ => by rw [h])
  · cases a with
    | start caller i x =>
        cases hu : s.management.usage? i with
        | none => simp only [made, hu]
        | some u => simp only [made, hu, h, if_pos (Management.stateOf_usage hu)]
    | _ => rfl
  · intro who
    cases a with
    | proceed caller => simp only [told, h, List.drop_length, List.map_nil]
    | _ => rfl

/-- Every move does one of these things. -/
theorem does (s : Crowd) (a : Move) : s.Does a := by
  cases a with
  | prepare d =>
      have htells := s.management.tells_prepare d
      refine .aside rfl rfl (fun _ => rfl) (s.management.stateOf_prepare d) ?_
      intro who hwho
      rcases List.mem_append.mp hwho with hlistener | hchannel
      · obtain ⟨j, hj, rfl⟩ := List.mem_map.mp hlistener
        exact (htells.heard j (List.mem_range.mp hj)).trans (List.append_nil _)
      · rw [List.mem_singleton.mp hchannel]
        exact htells.published.trans (List.append_nil _)
  | start caller i x =>
      cases hcaller : s.callers[caller]? with
      | none => exact does_of_stays (by simp only [move, hcaller])
      | some c =>
          obtain ⟨k, errands⟩ := c
          cases errands with
          | cons e rest => exact does_of_stays (by simp only [move, hcaller])
          | nil =>
              cases hu : s.management.usage? i with
              | none => exact does_of_stays (by simp only [move, hcaller, hu])
              | some u =>
                  have hmove : s.move (.start caller i x) =
                      ⟨s.management.placed i (u.begun x),
                        s.callers.set caller ⟨i, s.management.errands u x⟩⟩ := by
                    simp only [move, hcaller, hu]
                  refine .begins caller i x k u rfl hcaller hu hmove ?_ fun _ => rfl
                  simp only [made, hu, hmove, Management.stateOf_placed hu, if_true]
                  rw [(u.locked_transition x).1]
                  split <;> rfl
  | proceed caller =>
      cases hcaller : s.callers[caller]? with
      | none => exact does_of_stays (by simp only [move, hcaller])
      | some c =>
          obtain ⟨i, errands⟩ := c
          cases errands with
          | nil => exact does_of_stays (by simp only [move, hcaller])
          | cons e rest =>
              have hmove : s.move (.proceed caller) =
                  ⟨s.management.carryOut i e, s.callers.set caller ⟨i, rest⟩⟩ := by
                simp only [move, hcaller]
              refine .goesOn caller i e rest hcaller hmove rfl fun who => ?_
              simp only [told, hmove, Management.told_carryOut, List.drop_left]

/-- The listeners stay the same. -/
theorem audience_move (s : Crowd) (a : Move) :
    (s.move a).management.registry.audience = s.management.registry.audience := by
  have hlisteners : (s.move a).management.registry.listeners =
      s.management.registry.listeners := by
    cases a with
    | prepare d => exact (s.management.tells_prepare d).listeners
    | start caller i x =>
        simp only [move]
        split <;> rfl
    | proceed caller =>
        simp only [move]
        split
        · exact congrArg Registry.listeners (Management.carryOut_registry _ _ _)
        · rfl
  rw [Registry.audience, Registry.audience, hlisteners]

/-- So a caller that begins a use has to tell of the transition that its first part made. -/
theorem owes_errands {m : Management} {who : Audience} (hwho : who ∈ m.registry.audience)
    (u : Usage) (x : Use) (i : Nat) :
    Caller.owes who ⟨i, m.errands u x⟩ = (u.locked x).transition.toList :=
  Management.told_errands hwho u x

section Move

variable {s : Crowd} {who : Audience} (hwho : who ∈ s.management.registry.audience) (a : Move)

include hwho

/-- Everyone was told before what it was told before, and of what it is told now since. -/
theorem told_move :
    (s.move a).management.told who =
      s.management.told who ++ (s.told who a).map Telling.transition := by
  cases s.does a with
  | aside _ _ htold _ hsame => rw [htold, hsame who hwho, List.map_nil, List.append_nil]
  | begins caller i x k u _ _ _ hmove _ htold =>
      rw [htold, hmove, List.map_nil, List.append_nil]
      cases who <;> rfl
  | goesOn caller i e rest _ hmove _ htold =>
      rw [htold, hmove, Management.told_carryOut]
      cases e.told? who <;> rfl

/-- What a caller told by a move and what it has still to tell are what it had to tell before and
what it made. -/
theorem tells_move (caller : Nat) :
    toldBy caller (s.told who a) ++ (s.move a).owed who caller =
      s.owed who caller ++ madeBy caller (s.made a) := by
  have hset : ∀ (k : Nat) (c d : Caller), s.callers[k]? = some c →
      (((s.callers.set k d)[caller]?.map (·.owes who)).getD []) =
        if k = caller then d.owes who else s.owed who caller := by
    intro k c d hc
    have hk : k < s.callers.length := (List.getElem?_eq_some_iff.mp hc).1
    by_cases hkc : k = caller
    · rw [if_pos hkc, ← hkc, List.getElem?_set_self hk]
      rfl
    · rw [if_neg hkc, List.getElem?_set_ne hkc]
      rfl
  cases s.does a with
  | aside hcallers hmade htold _ _ =>
      rw [hmade, htold, owed, hcallers]
      exact (List.append_nil _).symm
  | begins k i x old u _ hcaller _ hmove hmade htold =>
      rw [htold, hmade, owed, hmove, hset k _ _ hcaller]
      by_cases hkc : k = caller
      · subst hkc
        rw [if_pos rfl, owes_errands hwho, owed, hcaller]
        cases (u.locked x).transition with
        | none => rfl
        | some t => simp [madeBy, toldBy, Caller.owes]
      · rw [if_neg hkc]
        cases (u.locked x).transition with
        | none => exact (List.append_nil _).symm
        | some t => simp [madeBy, toldBy, hkc]
  | goesOn k i e rest hcaller hmove hmade htold =>
      rw [htold, hmade, owed, hmove, hset k _ _ hcaller]
      by_cases hkc : k = caller
      · subst hkc
        rw [if_pos rfl, owed, hcaller]
        cases htell : e.told? who with
        | none => simp [madeBy, toldBy, Caller.owes, htell]
        | some t => simp [madeBy, toldBy, Caller.owes, htell]
      · rw [if_neg hkc]
        cases e.told? who with
        | none => exact (List.append_nil _).symm
        | some t => simp [madeBy, toldBy, hkc]

end Move

/-- The changes of state that a move makes lead on from the states in which the circuits were. -/
theorem path_move (s : Crowd) (a : Move) (j : Nat) :
    Transition.Path (s.management.stateOf j) (madeOf j (s.made a))
      ((s.move a).management.stateOf j) := by
  cases s.does a with
  | aside _ hmade _ hstate _ =>
      rw [hmade, hstate]
      rfl
  | begins caller i x k u _ _ hu hmove hmade _ =>
      rw [hmade, hmove, Management.stateOf_placed hu]
      obtain ⟨htransition, hproper⟩ := u.locked_transition x
      by_cases hij : i = j
      · subst hij
        rw [if_pos rfl, Management.stateOf_usage hu]
        by_cases hstate : (u.begun x).state = u.state
        · rw [htransition, if_pos hstate, hstate]
          rfl
        · rw [if_neg hstate] at htransition
          rw [htransition] at hproper ⊢
          simp only [Option.toList_some, List.map_cons, List.map_nil, madeOf, decide_true,
            List.filter_cons_of_pos, List.filter_nil]
          exact ⟨rfl, hproper _ rfl, rfl⟩
      · rw [if_neg hij]
        cases (u.locked x).transition with
        | none => rfl
        | some t => simp [madeOf, hij, Transition.Path]
  | goesOn caller i e rest _ hmove hmade _ =>
      rw [hmade, hmove, Management.stateOf_carryOut]
      rfl

/-! ## Runs of a crowd -/

/-- So are those of several moves. -/
theorem path_moves (s : Crowd) (as : List Move) (j : Nat) :
    Transition.Path (s.management.stateOf j) (madeOf j (s.madeIn as))
      ((s.moves as).management.stateOf j) := by
  induction as generalizing s with
  | nil => rfl
  | cons a rest ih =>
      rw [madeIn_cons, madeOf_append]
      exact (s.path_move a j).append (ih (s.move a))

section Moves

variable {s : Crowd} {who : Audience} (hwho : who ∈ s.management.registry.audience)

include hwho

/-- What everyone was told of by several moves. -/
theorem told_moves (as : List Move) :
    (s.moves as).management.told who =
      s.management.told who ++ (s.toldIn who as).map Telling.transition := by
  induction as generalizing s with
  | nil => exact (List.append_nil _).symm
  | cons a rest ih =>
      have hnext := ih ((s.audience_move a).symm ▸ hwho)
      rw [told_move hwho, List.append_assoc, ← List.map_append] at hnext
      exact hnext

/-- What a caller told by several moves and what it has still to tell are what it had to tell before
and what it made, each once and in its order. -/
theorem tells_moves (as : List Move) (caller : Nat) :
    toldBy caller (s.toldIn who as) ++ (s.moves as).owed who caller =
      s.owed who caller ++ madeBy caller (s.madeIn as) := by
  induction as generalizing s with
  | nil => exact (List.append_nil _).symm
  | cons a rest ih =>
      have hnext := ih ((s.audience_move a).symm ▸ hwho)
      calc toldBy caller (s.toldIn who (a :: rest)) ++ (s.moves (a :: rest)).owed who caller
          = toldBy caller (s.told who a) ++ (toldBy caller ((s.move a).toldIn who rest) ++
              ((s.move a).moves rest).owed who caller) := by
            rw [toldIn_cons, toldBy_append, moves_cons, List.append_assoc]
        _ = (toldBy caller (s.told who a) ++ (s.move a).owed who caller) ++
              madeBy caller ((s.move a).madeIn rest) := by rw [hnext, List.append_assoc]
        _ = s.owed who caller ++ (madeBy caller (s.made a) ++
              madeBy caller ((s.move a).madeIn rest)) := by
            rw [tells_move hwho, List.append_assoc]
        _ = s.owed who caller ++ madeBy caller (s.madeIn (a :: rest)) := by
            rw [madeIn_cons, madeBy_append]

end Moves

/-- In a quiet crowd no caller has anything to tell. -/
theorem owed_of_quiet {s : Crowd} (h : s.isQuiet = true) (who : Audience) (caller : Nat) :
    s.owed who caller = [] := by
  unfold owed
  cases hc : s.callers[caller]? with
  | none => rfl
  | some c =>
      exact Caller.owes_of_quiet (List.all_eq_true.mp h c (List.mem_of_getElem? hc)) who

/-- As often as something was told by a caller it is among what this caller told. -/
theorem count_toldBy (tellings : List Telling) (t : Telling) :
    tellings.count t = (toldBy t.caller tellings).count t.transition := by
  induction tellings with
  | nil => rfl
  | cons other rest ih =>
      obtain ⟨caller, transition⟩ := other
      obtain ⟨asked, sought⟩ := t
      by_cases hcaller : caller = asked
      · subst hcaller
        have hfirst : toldBy caller (⟨caller, transition⟩ :: rest) =
            transition :: toldBy caller rest := by
          simp [toldBy]
        rw [hfirst, List.count_cons, List.count_cons, ih]
        simp
      · have hfirst : toldBy asked (⟨caller, transition⟩ :: rest) = toldBy asked rest := by
          simp [toldBy, hcaller]
        rw [hfirst, List.count_cons, ih]
        simp [hcaller]

/-- What a caller tells of changes is what it made. -/
theorem toldBy_telling (caller : Nat) (changes : List Change) :
    toldBy caller (changes.map Change.telling) = madeBy caller changes := by
  rw [toldBy, madeBy, List.filter_map, List.map_map]
  rfl

/-- If the crowd is quiet before and after several moves, everyone was told of all changes of state
by the callers that made them, each once. -/
theorem told_perm {s : Crowd} {who : Audience} (hwho : who ∈ s.management.registry.audience)
    {as : List Move} (hbefore : s.isQuiet = true) (hafter : (s.moves as).isQuiet = true) :
    (s.toldIn who as).Perm ((s.madeIn as).map Change.telling) := by
  rw [List.perm_iff_count]
  intro t
  have htold := tells_moves hwho as t.caller
  rw [owed_of_quiet hbefore, owed_of_quiet hafter, List.append_nil, List.nil_append] at htold
  rw [count_toldBy, count_toldBy, toldBy_telling, htold]

/-! ## Announcements in turn -/

/-- Each change of state is announced before the next one is made. -/
def InTurn : Crowd → List Move → Prop
  | _, [] => True
  | s, a :: rest => (s.made a ≠ [] → s.isQuiet = true) ∧ (s.move a).InTurn rest

/-- In a quiet crowd nothing is to be told at all. -/
theorem owing_of_quiet {s : Crowd} (h : s.isQuiet = true) (who : Audience) :
    s.owing who = [] := by
  rw [owing, List.flatMap_eq_nil_iff]
  exact fun c hc => Caller.owes_of_quiet (List.all_eq_true.mp h c hc) who

/-- What all callers have to tell is what one of them has, between what the others have. -/
theorem owing_set {s : Crowd} {k : Nat} {c : Caller} (hc : s.callers[k]? = some c)
    (who : Audience) :
    ∃ before after, s.owing who = before ++ c.owes who ++ after ∧
      ∀ (m : Management) (d : Caller),
        owing ⟨m, s.callers.set k d⟩ who = before ++ d.owes who ++ after := by
  obtain ⟨hk, rfl⟩ := List.getElem?_eq_some_iff.mp hc
  refine ⟨(s.callers.take k).flatMap (·.owes who), (s.callers.drop (k + 1)).flatMap (·.owes who),
    ?_, ?_⟩
  · rw [owing]
    conv_lhs => rw [← List.take_append_drop k s.callers, List.drop_eq_getElem_cons hk]
    rw [List.flatMap_append, List.flatMap_cons, List.append_assoc]
  · intro m d
    rw [owing, List.set_eq_take_append_cons_drop, if_pos hk, List.flatMap_append,
      List.flatMap_cons, List.append_assoc]

section InTurn

variable {s : Crowd} {who : Audience} (hwho : who ∈ s.management.registry.audience)

include hwho

/-- If at most one transition is still to be told, and none when a state changes, then someone is
told of the changes in their order. -/
theorem tells_next (a : Move) (hone : (s.owing who).length ≤ 1)
    (hturn : s.made a ≠ [] → s.isQuiet = true) :
    (s.told who a).map Telling.transition ++ (s.move a).owing who =
        s.owing who ++ (s.made a).map Change.transition ∧
      ((s.move a).owing who).length ≤ 1 := by
  cases s.does a with
  | aside hcallers hmade htold _ _ =>
      have hsame : (s.move a).owing who = s.owing who := by rw [owing, hcallers, owing]
      rw [hmade, htold, hsame]
      exact ⟨(List.append_nil _).symm, hone⟩
  | begins caller i x k u _ hcaller _ hmove hmade htold =>
      obtain ⟨before, after, howing, hset⟩ := owing_set hcaller who
      rw [htold, hmove, hset, owes_errands hwho]
      cases htransition : (u.locked x).transition with
      | none =>
          have hnone : s.made a = [] := by rw [hmade, htransition]; rfl
          rw [hnone]
          rw [howing] at hone ⊢
          exact ⟨(List.append_nil _).symm, hone⟩
      | some t =>
          have hsome : s.made a = [⟨caller, i, t⟩] := by rw [hmade, htransition]; rfl
          have hquiet := owing_of_quiet (hturn (by rw [hsome]; exact List.cons_ne_nil _ _)) who
          rw [hquiet] at howing ⊢
          obtain ⟨hfirst, rfl⟩ := List.append_eq_nil_iff.mp howing.symm
          obtain ⟨rfl, _⟩ := List.append_eq_nil_iff.mp hfirst
          rw [hsome]
          exact ⟨rfl, Nat.le_refl _⟩
  | goesOn caller i e rest hcaller hmove hmade htold =>
      obtain ⟨before, after, howing, hset⟩ := owing_set hcaller who
      rw [htold, hmade, hmove, hset]
      rw [howing] at hone ⊢
      cases htell : e.told? who with
      | none =>
          have hsame : Caller.owes who ⟨i, e :: rest⟩ = Caller.owes who ⟨i, rest⟩ := by
            simp [Caller.owes, htell]
          rw [hsame] at hone ⊢
          exact ⟨(List.append_nil _).symm, hone⟩
      | some t =>
          have hfirst : Caller.owes who ⟨i, e :: rest⟩ = t :: Caller.owes who ⟨i, rest⟩ := by
            simp [Caller.owes, htell]
          rw [hfirst] at hone ⊢
          simp only [List.length_append, List.length_cons] at hone
          obtain rfl := List.eq_nil_of_length_eq_zero (show before.length = 0 by omega)
          obtain rfl := List.eq_nil_of_length_eq_zero (show after.length = 0 by omega)
          have hrest := List.eq_nil_of_length_eq_zero
            (show (Caller.owes who ⟨i, rest⟩).length = 0 by omega)
          rw [hrest]
          exact ⟨rfl, Nat.zero_le _⟩

end InTurn

/-- As long as transitions are announced in turn, it stays so. -/
theorem tells_onward {s : Crowd} {who : Audience}
    (hwho : who ∈ s.management.registry.audience) {as : List Move} (hturn : s.InTurn as)
    (hone : (s.owing who).length ≤ 1) :
    (s.toldIn who as).map Telling.transition ++ (s.moves as).owing who =
      s.owing who ++ (s.madeIn as).map Change.transition := by
  induction as generalizing s with
  | nil => exact (List.append_nil _).symm
  | cons a rest ih =>
      obtain ⟨hnext, hfew⟩ := tells_next hwho a hone hturn.1
      have hrest := ih ((s.audience_move a).symm ▸ hwho) hturn.2 hfew
      calc (s.toldIn who (a :: rest)).map Telling.transition ++ (s.moves (a :: rest)).owing who
          = (s.told who a).map Telling.transition ++
              (((s.move a).toldIn who rest).map Telling.transition ++
                ((s.move a).moves rest).owing who) := by
            rw [toldIn_cons, moves_cons, List.map_append, List.append_assoc]
        _ = ((s.told who a).map Telling.transition ++ (s.move a).owing who) ++
              ((s.move a).madeIn rest).map Change.transition := by rw [hrest, List.append_assoc]
        _ = s.owing who ++ ((s.made a).map Change.transition ++
              ((s.move a).madeIn rest).map Change.transition) := by
            rw [hnext, List.append_assoc]
        _ = s.owing who ++ (s.madeIn (a :: rest)).map Change.transition := by
            rw [madeIn_cons, List.map_append]

/-- If transitions are announced in turn, everyone was told of the changes of state in their order,
but for one that is still to be told. -/
theorem tells_inTurn {s : Crowd} {who : Audience}
    (hwho : who ∈ s.management.registry.audience) {as : List Move} (hturn : s.InTurn as)
    (hquiet : s.isQuiet = true) :
    (s.toldIn who as).map Telling.transition ++ (s.moves as).owing who =
      (s.madeIn as).map Change.transition := by
  have hnothing := owing_of_quiet hquiet who
  have honward := tells_onward hwho hturn (by rw [hnothing]; exact Nat.zero_le _)
  rwa [hnothing, List.nil_append] at honward

/-- Callers neither come nor go. -/
theorem length_callers_move (s : Crowd) (a : Move) :
    (s.move a).callers.length = s.callers.length := by
  cases s.does a with
  | aside hcallers _ _ _ _ => rw [hcallers]
  | begins caller i x k u _ _ _ hmove _ _ => rw [hmove, List.length_set]
  | goesOn caller i e rest _ hmove _ _ => rw [hmove, List.length_set]

/-- A caller that is alone announces its transitions in turn. -/
theorem inTurn_alone (s : Crowd) (halone : s.callers.length ≤ 1) (as : List Move) :
    s.InTurn as := by
  induction as generalizing s with
  | nil => trivial
  | cons a rest ih =>
      refine ⟨?_, ih (s.move a) ((s.length_callers_move a).symm ▸ halone)⟩
      intro hmade
      cases s.does a with
      | aside _ hnone _ _ _ => exact absurd hnone hmade
      | begins caller i x k u _ hcaller _ _ _ _ =>
          -- The one caller is the one that is about to begin a use.
          refine List.all_eq_true.mpr fun c hc => ?_
          obtain ⟨j, hj⟩ := List.mem_iff_getElem?.mp hc
          have hfirst := (List.getElem?_eq_some_iff.mp hcaller).1
          have hsecond := (List.getElem?_eq_some_iff.mp hj).1
          obtain rfl : j = caller := by omega
          rw [hcaller] at hj
          cases hj
          rfl
      | goesOn caller i e rest _ _ hnone _ => exact absurd hnone hmade

/-! ## Uses that no one comes in between -/

/-- The callers of a crowd when one of them is done with a use. -/
theorem moves_proceed {s : Crowd} {caller i : Nat} {es : List Errand}
    (hcaller : s.callers[caller]? = some ⟨i, es⟩) {n : Nat} (hn : es.length ≤ n) :
    s.moves (List.replicate n (.proceed caller)) =
      ⟨es.foldl (·.carryOut i ·) s.management, s.callers.set caller ⟨i, []⟩⟩ := by
  have hidle : ∀ {s : Crowd}, s.callers[caller]? = some ⟨i, []⟩ →
      s.callers.set caller ⟨i, []⟩ = s.callers := by
    intro s h
    obtain ⟨hlt, hc⟩ := List.getElem?_eq_some_iff.mp h
    rw [← hc, List.set_getElem_self]
  induction n generalizing s es with
  | zero =>
      obtain rfl := List.eq_nil_of_length_eq_zero (Nat.le_zero.mp hn)
      rw [hidle hcaller]
      rfl
  | succ n ih =>
      rw [List.replicate_succ, moves_cons]
      cases es with
      | nil =>
          have hmove : s.move (.proceed caller) = s := by simp only [move, hcaller]
          rw [hmove]
          exact ih hcaller (Nat.zero_le n)
      | cons e rest =>
          have hmove : s.move (.proceed caller) =
              ⟨s.management.carryOut i e, s.callers.set caller ⟨i, rest⟩⟩ := by
            simp only [move, hcaller]
          have hlt : caller < s.callers.length := (List.getElem?_eq_some_iff.mp hcaller).1
          rw [hmove, ih (List.getElem?_set_self hlt) (Nat.le_of_succ_le_succ hn), List.set_set]
          rfl

/-- Whatever goes on in a crowd, all circuits have the callbacks of the registry. -/
theorem uniform_moves {s : Crowd} (h : s.management.Uniform) (as : List Move) :
    (s.moves as).management.Uniform := by
  induction as generalizing s with
  | nil => exact h
  | cons a rest ih =>
      apply ih
      cases a with
      | prepare d => exact h.prepare d
      | start caller i x =>
          simp only [move]
          split
          · rename_i hu
            exact h.placed hu rfl
          · exact h
      | proceed caller =>
          simp only [move]
          split
          · exact h.carryOut _ _
          · exact h

/-- A use of a circuit by a caller that no other caller comes in between of leaves what the use as a
whole leaves. -/
theorem undisturbed {s : Crowd} (huniform : s.management.Uniform) {caller k : Nat}
    (hcaller : s.callers[caller]? = some ⟨k, []⟩) (i : Nat) (x : Use) :
    (s.moves (.start caller i x ::
      List.replicate (s.management.registry.listeners + 3) (.proceed caller))).management.Resembles
        (s.management.useOn i x).1 := by
  cases hu : s.management.usage? i with
  | none =>
      have hmove : s.move (.start caller i x) = s := by simp only [move, hcaller, hu]
      rw [moves_cons, hmove, moves_proceed hcaller (Nat.zero_le _), Management.useOn_none hu]
      exact ⟨rfl, fun _ => rfl, rfl, fun _ _ => rfl⟩
  | some u =>
      have hmove : s.move (.start caller i x) =
          ⟨s.management.placed i (u.begun x),
            s.callers.set caller ⟨i, s.management.errands u x⟩⟩ := by
        simp only [move, hcaller, hu]
      have hlt : caller < s.callers.length := (List.getElem?_eq_some_iff.mp hcaller).1
      rw [moves_cons, hmove, moves_proceed (List.getElem?_set_self hlt)
        (s.management.length_errands_le u x)]
      exact huniform.resembles_useOn hu x

end Crowd

end FailFast
