import FailFast.Proofs.Management.Changes

/-!
# The share of one service

Of all that a registry has, one service has a share: its configuration, the circuits that were made
for it, and what was told of them.  Whatever callers do with a service they do within its share, as
if there were no other service; whatever they do with other services leaves it alone.  What is done
to all services at once is done to each share once, in whatever order the services are visited.

Main results:

- Theorem `Management.Orderly.share_deed`: what is done with a service, or with all of them, is done
  within its share.
- Theorem `Management.Orderly.share_deed_other`: what is done with another service leaves the share.
-/

namespace FailFast

/-! ## Shares -/

/-- What a registry has of one service and told of it. -/
@[ext]
structure Share where
  config : Config
  callbacks : Callbacks
  classifier : Option Classifier
  instant : Instant
  /-- How many circuits were made for the service. -/
  made : Nat
  /-- These circuits in use, in the order in which they were made. -/
  usage? : Nat → Option Usage
  /-- The one that is registered. -/
  current : Option Nat
  told : List Transition

namespace Share

/-- The registered circuit in use. -/
def current? (w : Share) : Option Usage := w.current.bind w.usage?

/-- Use one of the circuits, if there is one of that number. -/
def touch (w : Share) (k : Nat) (x : Use) : Share × Reply :=
  match w.usage? k with
  | none => (w, .nothing)
  | some u =>
    ({ w with
        usage? := Function.update w.usage? k (some { u.use x with instant := u.instant })
        told := w.told ++ (u.change? x).toList },
      u.reply x)

/-- Use circuits one after the other. -/
def touchAll (w : Share) : List (Nat × Use) → Share × List Reply
  | [] => (w, [])
  | (k, x) :: rest =>
    let (w, reply) := w.touch k x
    let (w, replies) := w.touchAll rest
    (w, reply :: replies)

/-- Look up the registered circuit, or make one. -/
def obtained (w : Share) (service : String) : Share :=
  match w.current with
  | some _ => w
  | none =>
    { w with
      made := w.made + 1
      usage? := Function.update w.usage? w.made
        (some (.start service w.config .halves w.callbacks w.classifier w.instant))
      current := some w.made }

/-- The first part of a deed that is about the service, or about all services. -/
def prepare (w : Share) (service : String) : Deed → Share
  | .wait d =>
    { w with
      instant := w.instant + d.nanos
      usage? := fun k => (w.usage? k).map (·.use (.wait d)) }
  | .obtain _ => w.obtained service
  | .acquire _ => w.obtained service
  | .forceOpen _ => w.obtained service
  | .remove _ => { w with current := none }
  | .configure _ config => { w with config, current := none }
  | .draw _ k draws =>
    { w with
      usage? := Function.update w.usage? k
        ((w.usage? k).map fun u => u.put { u.circuit.breaker with draws }) }
  | .reset _ => w
  | .resetAll _ => w
  | .checkAll _ => w
  | .use _ _ _ => w

/-- The second part: the circuits that it uses, and what it does with them. -/
def touches (w : Share) : Deed → List (Nat × Use)
  | .acquire _ => w.current.toList.map (·, .acquire)
  | .forceOpen _ => w.current.toList.map (·, .forceOpen)
  | .reset _ => w.current.toList.map (·, .reset)
  | .resetAll _ => w.current.toList.map (·, .reset)
  | .checkAll _ =>
    if (w.current?.map (·.circuit.breaker.config.probesItself)).getD false then
      w.current.toList.map (·, .check)
    else []
  | .use _ k x => if (w.usage? k).isSome then [(k, x)] else []
  | _ => []

/-- A deed that is about the service, or about all services. -/
def step (w : Share) (service : String) (d : Deed) : Share × List Reply :=
  (w.prepare service d).touchAll ((w.prepare service d).touches d)

end Share

namespace Management

/-! ## The share of a service in a registry in use -/

/-- Which of the circuits made for a service has a number. -/
def place (m : Management) (service : String) (i : Nat) : Option Nat :=
  if m.name? i = some service then some ((m.numbers service).idxOf i) else none

/-- What a registry in use has of a service, and published of it. -/
def share (m : Management) (service : String) : Share where
  config := m.registry.configFor service
  callbacks := m.registry.callbacks
  classifier := m.registry.classifier
  instant := m.fleet.instant
  made := (m.numbers service).length
  usage? k := (m.numbers service)[k]?.bind m.usage?
  current := (m.registry.find? service).bind (m.place service)
  told := m.fleet.channel.published.filter (·.circuit = service)

/-- The uses of circuits of a service among uses of circuits. -/
def ownTouches (m : Management) (service : String) (touches : List (Nat × Use)) :
    List (Nat × Use) :=
  touches.filterMap fun touch => (m.place service touch.1).map (·, touch.2)

section Places

variable {m n : Management} {service : String} {i k : Nat}

/-- The circuit at a place of a service has that number. -/
theorem place_eq_some : m.place service i = some k ↔ (m.numbers service)[k]? = some i := by
  constructor
  · intro hplace
    unfold place at hplace
    split at hplace
    · rename_i hname
      cases hplace
      exact List.getElem?_idxOf (mem_numbers.mpr hname)
    · cases hplace
  · intro hi
    obtain ⟨hk, rfl⟩ := List.getElem?_eq_some_iff.mp hi
    rw [place, if_pos (mem_numbers.mp (List.getElem_mem hk)),
      (m.numbers_nodup service).idxOf_getElem k hk]

/-- The circuit at a place of the share is the one of that number. -/
theorem share_usage (hk : m.place service i = some k) :
    (m.share service).usage? k = m.usage? i := by
  show (m.numbers service)[k]?.bind m.usage? = m.usage? i
  rw [place_eq_some.mp hk]
  rfl

/-- Places depend on the numbers only. -/
theorem place_congr (hnumbers : m.numbers service = n.numbers service) :
    m.place service = n.place service := by
  funext i
  apply Option.ext
  intro k
  rw [place_eq_some, place_eq_some, hnumbers]

/-- The circuit that is registered for a service has a place. -/
theorem Orderly.place_of_find (h : m.Orderly) (hfind : m.registry.find? service = some i) :
    ∃ k, m.place service i = some k := by
  obtain ⟨c, hc, hname, _⟩ := h.registered _ (h.find?_eq_some.mp hfind)
  refine ⟨_, if_pos ?_⟩
  rw [name?, hc]
  exact congrArg some hname

/-- What the share of a service is made of. -/
theorem share_congr (hconfig : m.registry.configFor service = n.registry.configFor service)
    (hcallbacks : m.registry.callbacks = n.registry.callbacks)
    (hclassifier : m.registry.classifier = n.registry.classifier)
    (hinstant : m.fleet.instant = n.fleet.instant)
    (hnumbers : m.numbers service = n.numbers service)
    (husage : ∀ i ∈ n.numbers service, m.usage? i = n.usage? i)
    (hfind : m.registry.find? service = n.registry.find? service)
    (htold : m.fleet.channel.published.filter (·.circuit = service) =
      n.fleet.channel.published.filter (·.circuit = service)) :
    m.share service = n.share service := by
  apply Share.ext
  · exact hconfig
  · exact hcallbacks
  · exact hclassifier
  · exact hinstant
  · simp only [share, hnumbers]
  · funext k
    simp only [share, hnumbers]
    cases hi : (n.numbers service)[k]? with
    | none => rfl
    | some i => exact husage i (List.mem_of_getElem? hi)
  · simp only [share, hfind, place_congr hnumbers]
  · exact htold

end Places

/-! ## Using circuits -/

section Use

variable {m : Management} (h : m.Orderly) {service : String} {i k : Nat}

include h

/-- Using circuits leaves their places. -/
theorem Orderly.place_useOn (j : Nat) (x : Use) : (m.useOn j x).1.place = m.place := by
  funext service
  exact place_congr (numbers_congr (m.useOn_size j x) (h.name?_useOn j x) service)

/-- What is published of a service when a circuit is used. -/
theorem Orderly.published_useOn {u : Usage} (hu : m.usage? i = some u) (x : Use)
    (service : String) :
    (m.useOn i x).1.fleet.channel.published.filter (·.circuit = service) =
      m.fleet.channel.published.filter (·.circuit = service) ++
        if m.name? i = some service then (u.change? x).toList else [] := by
  rw [(h.tells_useOn i x).published, List.filter_append, change?, hu, Option.bind_some, name?_eq,
    hu]
  congr 1
  unfold Usage.change?
  split
  · split <;> rfl
  · simp only [Option.map_some, Option.toList_some, List.map_cons, List.map_nil,
      List.filter_singleton, Option.some.injEq, Bool.cond_decide]

/-- To use a circuit of a service is to use it in the share of the service. -/
theorem Orderly.share_useOn (hk : m.place service i = some k) (x : Use) :
    ((m.useOn i x).1.share service, (m.useOn i x).2) = (m.share service).touch k x := by
  have hnumber := place_eq_some.mp hk
  have hname : m.name? i = some service := mem_numbers.mp (List.mem_of_getElem? hnumber)
  have hnumbers := numbers_congr (m.useOn_size i x) (h.name?_useOn i x) service
  rw [Share.touch, share_usage hk]
  cases hu : m.usage? i with
  | none => rw [useOn_none hu]
  | some u =>
      have hinstant : m.fleet.instant = u.instant := (usage?_eq_some.mp hu).2.1
      refine Prod.ext ?_ ?_
      · apply Share.ext
        · simp only [share, useOn_registry]
        · simp only [share, useOn_registry]
        · simp only [share, useOn_registry]
        · simp only [share, useOn_instant]
        · simp only [share, hnumbers]
        · funext j
          simp only [share, hnumbers]
          by_cases hj : j = k
          · rw [hj, Function.update_self, hnumber, Option.bind_some, usage?_useOn hu]
          · rw [Function.update_of_ne hj]
            cases hother : (m.numbers service)[j]? with
            | none => rfl
            | some number =>
                rw [Option.bind_some, Option.bind_some]
                apply usage?_useOn_other
                rintro rfl
                exact hj (Option.some.inj ((place_eq_some.mpr hother).symm.trans hk))
        · simp only [share, useOn_registry, h.place_useOn]
        · simp only [share, h.published_useOn hu, if_pos hname]
      · rw [useOn_some hu]

/-- To use a circuit of another service leaves it. -/
theorem Orderly.share_useOn_other (hk : m.place service i = none) (x : Use) :
    (m.useOn i x).1.share service = m.share service := by
  have hname : m.name? i ≠ some service := by
    intro hname
    rw [place, if_pos hname] at hk
    cases hk
  cases hu : m.usage? i with
  | none => rw [useOn_none hu]
  | some u =>
      refine share_congr ?_ ?_ ?_ (m.useOn_instant i x)
        (numbers_congr (m.useOn_size i x) (h.name?_useOn i x) service) ?_ ?_ ?_
      · rw [useOn_registry]
      · rw [useOn_registry]
      · rw [useOn_registry]
      · intro j hj
        apply usage?_useOn_other
        rintro rfl
        exact hname (mem_numbers.mp hj)
      · rw [useOn_registry]
      · rw [h.published_useOn hu, if_neg hname, List.append_nil]

/-- To use circuits one after the other is, in the share of a service, to use those of the
service; whoever uses only those gets the same answers. -/
theorem Orderly.share_useAll (service : String) (touches : List (Nat × Use)) :
    (m.useAll touches).1.share service =
        ((m.share service).touchAll (m.ownTouches service touches)).1 ∧
      ((∀ touch ∈ touches, (m.place service touch.1).isSome = true) →
        (m.useAll touches).2 =
          ((m.share service).touchAll (m.ownTouches service touches)).2) := by
  induction touches generalizing m with
  | nil => exact ⟨rfl, fun _ => rfl⟩
  | cons touch rest ih =>
      have hrest := ih (h.useOn touch.1 touch.2)
      rw [ownTouches, h.place_useOn, ← ownTouches] at hrest
      cases hk : m.place service touch.1 with
      | none =>
          rw [h.share_useOn_other hk] at hrest
          rw [ownTouches, List.filterMap_cons_none (by rw [hk]; rfl)]
          refine ⟨hrest.1, ?_⟩
          intro hown
          have hfirst := hown touch List.mem_cons_self
          rw [hk] at hfirst
          cases hfirst
      | some k =>
          have hfirst := h.share_useOn hk touch.2
          rw [ownTouches, List.filterMap_cons_some (by rw [hk]; rfl), Share.touchAll, ← hfirst]
          refine ⟨hrest.1, ?_⟩
          intro hown
          exact congrArg _ (hrest.2 (List.forall_mem_cons.mp hown).2)

end Use

/-! ## The first part of deeds -/

/-- To draw random numbers for a circuit of a service is to do it in the share. -/
theorem share_drawn {m : Management} {service : String} {i k : Nat}
    (hi : (m.numbers service)[k]? = some i) (draws : Draws) :
    (m.drawn i draws).share service = (m.share service).prepare service (.draw service k draws) := by
  have hnumbers : (m.drawn i draws).numbers service = m.numbers service :=
    m.numbers_drawn i draws service
  apply Share.ext
  · rfl
  · rfl
  · rfl
  · rfl
  · simp only [share, hnumbers, Share.prepare]
  · funext j
    simp only [share, hnumbers, Share.prepare]
    by_cases hj : j = k
    · rw [hj, Function.update_self, hi, Option.bind_some, Option.bind_some, usage?_drawn,
        if_pos rfl]
    · rw [Function.update_of_ne hj]
      cases hother : (m.numbers service)[j]? with
      | none => rfl
      | some number =>
          rw [Option.bind_some, Option.bind_some, usage?_drawn, if_neg]
          rintro rfl
          rw [← place_eq_some] at hi hother
          exact hj (Option.some.inj (hother.symm.trans hi))
  · simp only [share, Share.prepare, place_congr hnumbers]
    rfl
  · rfl

section Prepare

variable {m : Management} (h : m.Orderly) {service : String}

include h

/-- To look up or make the circuit of a service is to do it in its share. -/
theorem Orderly.share_obtained (service : String) :
    (m.obtained service).share service = (m.share service).obtained service := by
  cases hfind : m.registry.find? service with
  | some i =>
      obtain ⟨k, hk⟩ := h.place_of_find hfind
      have hcurrent : (m.share service).current = some k := by
        show (m.registry.find? service).bind (m.place service) = some k
        rw [hfind]
        exact hk
      rw [(obtained_of_find hfind).1, Share.obtained, hcurrent]
  | none =>
      have hcurrent : (m.share service).current = none := by
        show (m.registry.find? service).bind (m.place service) = none
        rw [hfind]
        rfl
      have hnumbers : (m.obtained service).numbers service =
          m.numbers service ++ [m.fleet.circuits.length] := by
        rw [numbers_obtained_of_none hfind, if_pos rfl]
      have husage := usage?_obtained_of_none hfind (h.unmade _ (Nat.le_refl _))
      rw [Share.obtained, hcurrent]
      apply Share.ext
      · simp only [share, (obtained_of_none hfind).1]
        rfl
      · simp only [share, (obtained_of_none hfind).1]
        rfl
      · simp only [share, (obtained_of_none hfind).1]
      · simp only [share, (obtained_of_none hfind).1]
        rfl
      · simp only [share, hnumbers, List.length_append, List.length_singleton]
      · funext k
        simp only [share, hnumbers]
        rcases Nat.lt_trichotomy k (m.numbers service).length with hlt | rfl | hgt
        · have hmade : (m.numbers service)[k] ≠ m.fleet.circuits.length := by
            have hmem := List.getElem_mem hlt
            exact Nat.ne_of_lt (List.mem_range.mp (List.mem_of_mem_filter hmem))
          rw [List.getElem?_append_left hlt, Function.update_of_ne (Nat.ne_of_lt hlt),
            List.getElem?_eq_getElem hlt, Option.bind_some, Option.bind_some, husage,
            if_neg hmade]
        · rw [List.getElem?_concat_length, Function.update_self, Option.bind_some, husage,
            if_pos rfl]
        · rw [Function.update_of_ne (Nat.ne_of_gt hgt), List.getElem?_eq_none (Nat.le_of_lt hgt),
            List.getElem?_eq_none (by rw [List.length_append]; exact hgt)]
          rfl
      · show ((m.obtained service).registry.find? service).bind _ = some (m.numbers service).length
        rw [find?_obtained, (obtained_of_none hfind).2, Option.bind_some, place_eq_some, hnumbers,
          List.getElem?_concat_length]
      · simp only [share, (obtained_of_none hfind).1]
        rfl

/-- For another service it leaves the share. -/
theorem Orderly.share_obtained_other {other : String} (hother : service ≠ other) :
    (m.obtained other).share service = m.share service := by
  cases hfind : m.registry.find? other with
  | some i => rw [(obtained_of_find hfind).1]
  | none =>
      have hnumbers : (m.obtained other).numbers service = m.numbers service := by
        rw [numbers_obtained_of_none hfind, if_neg (Ne.symm hother), List.append_nil]
      refine share_congr ?_ ?_ ?_ ?_ hnumbers ?_ (find?_obtained_other hother) ?_
      · rw [(obtained_of_none hfind).1]
        rfl
      · rw [(obtained_of_none hfind).1]
        rfl
      · rw [(obtained_of_none hfind).1]
      · rw [(obtained_of_none hfind).1]
        rfl
      · intro i hi
        rw [usage?_obtained_of_none hfind (h.unmade _ (Nat.le_refl _)), if_neg]
        exact Nat.ne_of_lt (List.mem_range.mp (List.mem_of_mem_filter hi))
      · rw [(obtained_of_none hfind).1]
        rfl

/-- The first part of a deed that is about a service, or about all, takes place in the share. -/
theorem Orderly.share_prepare {d : Deed} (hd : d.concerns service = true) :
    (m.prepare d).share service = (m.share service).prepare service d := by
  cases d with
  | wait d =>
      apply Share.ext
      · rfl
      · rfl
      · rfl
      · rfl
      · rfl
      · funext k
        show (m.numbers service)[k]?.bind (m.waited d).usage? =
          ((m.numbers service)[k]?.bind m.usage?).map (·.use (.wait d))
        cases (m.numbers service)[k]? with
        | none => rfl
        | some i => exact m.usage?_waited d i
      · rfl
      · rfl
  | obtain other =>
      cases of_decide_eq_true hd
      exact h.share_obtained service
  | acquire other =>
      cases of_decide_eq_true hd
      exact h.share_obtained service
  | forceOpen other =>
      cases of_decide_eq_true hd
      exact h.share_obtained service
  | remove other =>
      cases of_decide_eq_true hd
      have hfind : (m.removed service).registry.find? service = none := by
        rw [find?_removed, if_pos rfl]
      apply Share.ext
      · rfl
      · rfl
      · rfl
      · rfl
      · rfl
      · rfl
      · show ((m.removed service).registry.find? service).bind _ = none
        rw [hfind]
        rfl
      · rfl
  | configure other config =>
      cases of_decide_eq_true hd
      have hfind : (m.configured service config).registry.find? service = none := by
        rw [find?_configured, if_pos rfl]
      have hnumbers := m.numbers_configured service config service
      obtain ⟨journal, hfleet⟩ := m.configured_fleet service config
      apply Share.ext
      · exact m.configFor_configured service config
      · rfl
      · rfl
      · simp only [share, Share.prepare, Management.prepare, hfleet]
      · simp only [share, Share.prepare, Management.prepare, hnumbers]
      · funext k
        simp only [share, Share.prepare, Management.prepare, hnumbers]
        congr 1
        funext i
        exact m.usage?_configured service config i
      · show ((m.configured service config).registry.find? service).bind _ = none
        rw [hfind]
        rfl
      · simp only [share, Share.prepare, Management.prepare, hfleet]
  | draw other k draws =>
      cases of_decide_eq_true hd
      cases hi : (m.numbers service)[k]? with
      | some i =>
          rw [← share_drawn hi draws]
          simp only [Management.prepare, hi]
      | none =>
          have hnothing : (m.share service).usage? k = none := by
            show (m.numbers service)[k]?.bind m.usage? = none
            rw [hi]
            rfl
          simp only [Management.prepare, Share.prepare, hi, hnothing, Option.map_none]
          rw [← hnothing, Function.update_eq_self]
  | reset other => rfl
  | resetAll tour => rfl
  | checkAll tour => rfl
  | use other k x => rfl

/-- That of a deed about another service leaves the share. -/
theorem Orderly.share_prepare_other {d : Deed} (hd : d.concerns service = false) :
    (m.prepare d).share service = m.share service := by
  have hne : ∀ {other : String}, d.service? = some other → service ≠ other := by
    rintro other hother rfl
    simp [Deed.concerns, hother] at hd
  cases d with
  | wait d => cases hd
  | obtain other => exact h.share_obtained_other (hne rfl)
  | acquire other => exact h.share_obtained_other (hne rfl)
  | forceOpen other => exact h.share_obtained_other (hne rfl)
  | remove other =>
      refine share_congr rfl rfl rfl rfl rfl (fun _ _ => rfl) ?_ rfl
      exact (m.find?_removed other service).trans (if_neg (hne rfl))
  | configure other config =>
      obtain ⟨journal, hfleet⟩ := m.configured_fleet other config
      refine share_congr (configFor_configured_other config (hne rfl)) rfl rfl ?_
        (m.numbers_configured other config service) (fun i _ => m.usage?_configured other config i)
        ?_ ?_
      · simp only [Management.prepare, hfleet]
      · exact (m.find?_configured other config service).trans (if_neg (hne rfl))
      · simp only [Management.prepare, hfleet]
  | draw other k draws =>
      simp only [Management.prepare]
      split
      · rfl
      · rename_i i hi
        have hname : m.name? i = some other := mem_numbers.mp (List.mem_of_getElem? hi)
        refine share_congr rfl rfl rfl rfl (m.numbers_drawn i draws service) ?_ rfl rfl
        intro j hj
        rw [usage?_drawn, if_neg]
        rintro rfl
        rw [mem_numbers, hname] at hj
        exact hne rfl (Option.some.inj hj).symm
  | reset other => rfl
  | resetAll tour => rfl
  | checkAll tour => rfl
  | use other k x => rfl

end Prepare

/-! ## The second part of deeds -/

/-- Of entries with different keys at most one has a given key. -/
theorem filter_key {entries : List (String × Nat)} (hdistinct : (entries.map Prod.fst).Nodup)
    (service : String) :
    entries.filter (·.1 = service) = (entries.lookup service).toList.map (service, ·) := by
  induction entries with
  | nil => rfl
  | cons entry rest ih =>
      obtain ⟨hnew, hrest⟩ := List.nodup_cons.mp hdistinct
      rw [List.lookup_cons]
      by_cases hentry : entry.1 = service
      · have hnone : rest.filter (·.1 = service) = [] := by
          rw [List.filter_eq_nil_iff]
          intro other hother heq
          apply hnew
          rw [hentry, ← of_decide_eq_true heq]
          exact List.mem_map_of_mem hother
        subst hentry
        rw [List.filter_cons_of_pos (by simp), hnone, beq_self_eq_true]
        rfl
      · rw [List.filter_cons_of_neg (by simpa using hentry), beq_false_of_ne (Ne.symm hentry)]
        exact ih hrest

section Touches

variable {m : Management} (h : m.Orderly) {service : String}

include h

/-- In whatever order services are visited, each is visited once. -/
theorem Orderly.filter_arrange (tour : Tour) (service : String) :
    (tour.arrange m.registry.registered).filter (·.1 = service) =
      (m.registry.find? service).toList.map (service, ·) := by
  have hperm := (tour.perm m.registry.registered).filter (·.1 = service)
  rw [filter_key h.distinct] at hperm
  unfold Registry.find?
  cases hfind : m.registry.registered.lookup service with
  | none =>
      rw [hfind] at hperm
      exact hperm.eq_nil
  | some i =>
      rw [hfind] at hperm
      exact List.perm_singleton.mp hperm

/-- Of the circuits of several services only that of the service itself is its own. -/
theorem Orderly.ownTouches_entries {entries : List (String × Nat)}
    (hentries : ∀ entry ∈ entries, entry ∈ m.registry.registered) (x : Use) :
    m.ownTouches service (entries.map (·.2, x)) =
      m.ownTouches service ((entries.filter (·.1 = service)).map (·.2, x)) := by
  induction entries with
  | nil => rfl
  | cons entry rest ih =>
      obtain ⟨hentry, hrest⟩ := List.forall_mem_cons.mp hentries
      have htail := ih hrest
      unfold ownTouches at htail ⊢
      by_cases hkey : entry.1 = service
      · rw [List.filter_cons_of_pos (by simpa using hkey), List.map_cons, List.map_cons,
          List.filterMap_cons, List.filterMap_cons, htail]
      · have hplace : m.place service entry.2 = none := by
          obtain ⟨c, hc, hname, _⟩ := h.registered entry hentry
          rw [place, name?, hc, Option.map_some, hname, if_neg]
          exact fun heq => hkey (Option.some.inj heq)
        rw [List.filter_cons_of_neg (by simpa using hkey), List.map_cons,
          List.filterMap_cons_none (by rw [hplace]; rfl), htail]

/-- The registered circuit is the current one of the share. -/
theorem Orderly.ownTouches_find (service : String) (x : Use) :
    m.ownTouches service ((m.registry.find? service).toList.map (·, x)) =
      (m.share service).current.toList.map (·, x) := by
  show _ = ((m.registry.find? service).bind (m.place service)).toList.map (·, x)
  cases hfind : m.registry.find? service with
  | none => rfl
  | some i =>
      obtain ⟨k, hk⟩ := h.place_of_find hfind
      rw [Option.bind_some, hk, ownTouches, Option.toList_some, List.map_singleton,
        List.filterMap_cons_some (by rw [hk]; rfl)]
      rfl

/-- It is in use as it is in the share. -/
theorem Orderly.current?_share :
    (m.share service).current? = (m.registry.find? service).bind m.usage? := by
  show ((m.registry.find? service).bind (m.place service)).bind (m.share service).usage? = _
  cases hfind : m.registry.find? service with
  | none => rfl
  | some i =>
      obtain ⟨k, hk⟩ := h.place_of_find hfind
      rw [Option.bind_some, hk, Option.bind_some, share_usage hk, Option.bind_some]

/-- A deed that is about a service, or about all, uses the circuits that it uses in the share. -/
theorem Orderly.ownTouches_touches {d : Deed} (hd : d.concerns service = true) :
    m.ownTouches service (m.touches d) = (m.share service).touches d := by
  have harranged : ∀ tour : Tour, ∀ entry ∈ tour.arrange m.registry.registered,
      entry ∈ m.registry.registered :=
    fun tour entry hentry => (tour.perm _).mem_iff.mp hentry
  cases d with
  | acquire other =>
      cases of_decide_eq_true hd
      exact h.ownTouches_find service .acquire
  | forceOpen other =>
      cases of_decide_eq_true hd
      exact h.ownTouches_find service .forceOpen
  | reset other =>
      cases of_decide_eq_true hd
      exact h.ownTouches_find service .reset
  | resetAll tour =>
      rw [touches, h.ownTouches_entries (harranged tour), h.filter_arrange, List.map_map]
      exact h.ownTouches_find service .reset
  | checkAll tour =>
      have hentries : ∀ entry ∈ (tour.arrange m.registry.registered).filter (m.probesItself ·.2),
          entry ∈ m.registry.registered :=
        fun entry hentry => harranged tour entry (List.mem_of_mem_filter hentry)
      have hcurrent := h.ownTouches_find service .check
      rw [touches, h.ownTouches_entries hentries, List.filter_comm, h.filter_arrange,
        Share.touches, h.current?_share]
      cases hfind : m.registry.find? service with
      | none => rfl
      | some i =>
          rw [hfind] at hcurrent
          have hprobes : m.probesItself i = ((m.usage? i).map
              (·.circuit.breaker.config.probesItself)).getD false := by
            rw [probesItself, circuit_eq, Option.map_map]
            rfl
          rw [Option.bind_some, ← hprobes]
          cases hself : m.probesItself i with
          | true =>
              rw [if_pos rfl, ← hcurrent]
              simp [hself]
          | false => simp [hself, ownTouches]
  | use other k x =>
      cases of_decide_eq_true hd
      rw [touches, Share.touches]
      cases hi : (m.numbers service)[k]? with
      | none =>
          have hnone : (m.share service).usage? k = none := by
            show (m.numbers service)[k]?.bind m.usage? = none
            rw [hi]
            rfl
          rw [hnone]
          rfl
      | some i =>
          have hk := place_eq_some.mpr hi
          have hmade : i < m.fleet.circuits.length :=
            List.mem_range.mp (List.mem_of_mem_filter (List.mem_of_getElem? hi))
          rw [share_usage hk, if_pos (usage?_isSome.mpr hmade), ownTouches, Option.toList_some,
            List.map_singleton, List.filterMap_cons_some (by rw [hk]; rfl)]
          rfl
  | wait d => rfl
  | obtain other => rfl
  | remove other => rfl
  | configure other config => rfl
  | draw other k draws => rfl

/-- A circuit that a deed names is of the service that the deed names. -/
theorem Orderly.name_of_touches {d : Deed} (hd : d.service? = some service) :
    ∀ touch ∈ m.touches d, m.name? touch.1 = some service := by
  have hfound : ∀ x : Use, ∀ touch ∈ (m.registry.find? service).toList.map (·, x),
      m.name? touch.1 = some service := by
    intro x touch htouch
    obtain ⟨i, hi, rfl⟩ := List.mem_map.mp htouch
    obtain ⟨k, hk⟩ := h.place_of_find (Option.mem_toList.mp hi)
    exact mem_numbers.mp (List.mem_of_getElem? (place_eq_some.mp hk))
  cases d with
  | acquire other =>
      cases hd
      exact hfound .acquire
  | forceOpen other =>
      cases hd
      exact hfound .forceOpen
  | reset other =>
      cases hd
      exact hfound .reset
  | use other k x =>
      cases hd
      intro touch htouch
      obtain ⟨i, hi, rfl⟩ := List.mem_map.mp htouch
      exact mem_numbers.mp (List.mem_of_getElem? (Option.mem_toList.mp hi))
  | resetAll tour => cases hd
  | checkAll tour => cases hd
  | wait d => cases hd
  | obtain other => exact List.forall_mem_nil _
  | remove other => exact List.forall_mem_nil _
  | configure other config => exact List.forall_mem_nil _
  | draw other k draws => exact List.forall_mem_nil _

end Touches

/-! ## Whole deeds -/

section Deeds

variable {m : Management} (h : m.Orderly) {service : String} {d : Deed}

include h

/-- What is done with a service, or with all of them, is done within the share of the service. -/
theorem Orderly.share_deed (hd : d.concerns service = true) :
    (m.deed d).share service = ((m.share service).step service d).1 := by
  have hused := (h.prepare d).share_useAll service ((m.prepare d).touches d)
  rw [(h.prepare d).ownTouches_touches hd, h.share_prepare hd] at hused
  exact hused.1

/-- Whoever does something with the service is told what the share answers. -/
theorem Orderly.share_replies (hd : d.service? = some service) :
    m.replies d = ((m.share service).step service d).2 := by
  have hconcerns : d.concerns service = true := by simp [Deed.concerns, hd]
  have hused := (h.prepare d).share_useAll service ((m.prepare d).touches d)
  rw [(h.prepare d).ownTouches_touches hconcerns, h.share_prepare hconcerns] at hused
  apply hused.2
  intro touch htouch
  rw [place, if_pos ((h.prepare d).name_of_touches hd touch htouch)]
  rfl

/-- What is done with another service leaves the share. -/
theorem Orderly.share_deed_other (hd : d.concerns service = false) :
    (m.deed d).share service = m.share service := by
  obtain ⟨other, hother⟩ : ∃ other, d.service? = some other := by
    cases hnamed : d.service? with
    | none => simp [Deed.concerns, hnamed] at hd
    | some other => exact ⟨other, rfl⟩
  have hne : other ≠ service := by
    rintro rfl
    simp [Deed.concerns, hother] at hd
  have hnone : (m.prepare d).ownTouches service ((m.prepare d).touches d) = [] := by
    rw [ownTouches, List.filterMap_eq_nil_iff]
    intro touch htouch
    rw [place, (h.prepare d).name_of_touches hother touch htouch, if_neg]
    · rfl
    · exact fun heq => hne (Option.some.inj heq)
  have hused := ((h.prepare d).share_useAll service ((m.prepare d).touches d)).1
  rw [hnone, h.share_prepare_other hd] at hused
  exact hused

end Deeds

end Management

end FailFast
