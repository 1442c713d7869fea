import FailFast.Proofs.Management.Sessions
import FailFast.Proofs.Management.Shares

/-!
# Services do not interfere

From a run in which anything is done with any services, leave out all that is about other services
than one, and let the services be visited in another order whenever all of them are reset or checked.
For the one service both runs are the same: it has the same circuits in the same states, everyone who
uses it is told the same and gets the same results of calls, and the same transitions of it are
published and heard of.

Main results:

- Theorem `Management.share_deeds`: both runs have the same share of the service and give the same
  answers along the way.
- Theorem `Management.sameFor_of_share`: what can be seen of a service depends on its share.
- Theorem `Management.services_do_not_interfere`: what is done with other services cannot be seen.
-/

namespace FailFast

/-! ## Runs with less -/

/-- Deeds that are the same but for the order in which services are visited. -/
inductive Deed.Alike : Deed → Deed → Prop where
  | same (d : Deed) : Alike d d
  | resetAll (tour another : Tour) : Alike (.resetAll tour) (.resetAll another)
  | checkAll (tour another : Tour) : Alike (.checkAll tour) (.checkAll another)

/-- They are about the same service. -/
theorem Deed.Alike.service?_eq {d e : Deed} (h : Alike d e) : d.service? = e.service? := by
  cases h <;> rfl

/-- A share takes no notice of the order. -/
theorem Deed.Alike.step_eq {d e : Deed} (h : Alike d e) (w : Share) (service : String) :
    w.step service d = w.step service e := by
  cases h <;> rfl

namespace Management

/-- What those are told, one after the other, who do something with a service. -/
def answers (m : Management) (service : String) : List Deed → List (List Reply)
  | [] => []
  | d :: rest =>
    if d.service? = some service then m.replies d :: (m.deed d).answers service rest
    else (m.deed d).answers service rest

/-- Two runs that differ only in what is done with other services, and in the orders of visits, have
the same share of a service, and give the same answers about it. -/
theorem share_deeds {m n : Management} (hm : m.Orderly) (hn : n.Orderly) {service : String}
    (hshare : m.share service = n.share service) {ds es : List Deed}
    (hdeeds : List.Forall₂ Deed.Alike (ds.filter (·.concerns service)) es) :
    (m.deeds ds).share service = (n.deeds es).share service ∧
      m.answers service ds = n.answers service es := by
  induction ds generalizing m n es with
  | nil =>
      cases hdeeds
      exact ⟨hshare, rfl⟩
  | cons d rest ih =>
      cases hd : d.concerns service with
      | false =>
          rw [List.filter_cons_of_neg (by rw [hd]; exact Bool.false_ne_true)] at hdeeds
          have hother : d.service? ≠ some service := by
            intro hsame
            simp [Deed.concerns, hsame] at hd
          rw [answers, if_neg hother]
          exact ih (hm.deed d) hn ((hm.share_deed_other hd).trans hshare) hdeeds
      | true =>
          rw [List.filter_cons_of_pos hd] at hdeeds
          cases hdeeds with
          | @cons _ e _ fs halike hrest =>
              have he : e.concerns service = true := by
                rw [Deed.concerns, ← halike.service?_eq]
                exact hd
              have hnext : (m.deed d).share service = (n.deed e).share service := by
                rw [hm.share_deed hd, hn.share_deed he, hshare, halike.step_eq]
              obtain ⟨hlast, hanswers⟩ := ih (hm.deed d) (hn.deed e) hnext hrest
              refine ⟨hlast, ?_⟩
              rw [answers, answers, hanswers, ← halike.service?_eq]
              split
              · rename_i hnamed
                rw [hm.share_replies hnamed, hn.share_replies (halike.service?_eq ▸ hnamed), hshare,
                  halike.step_eq]
              · rfl

/-! ## What can be seen of a service -/

/-- Two registries in use in which the same can be seen of a service: whether it has a circuit, this
circuit with its state and its metrics, and all circuits that were ever made for it; what is told to
those who do something with the service; which of its transitions were published and which of them
each listener heard of; and what its calls return, those that begin now and those under way. -/
structure SameFor (service : String) (m n : Management) : Prop where
  known : (m.registry.find? service).isSome = (n.registry.find? service).isSome
  circuit : (m.registry.find? service).bind m.usage? = (n.registry.find? service).bind n.usage?
  state : m.registry.state m.fleet service = n.registry.state n.fleet service
  metrics : m.registry.metrics m.fleet service = n.registry.metrics n.fleet service
  made : ∀ k : Nat, (m.numbers service)[k]?.bind m.usage? = (n.numbers service)[k]?.bind n.usage?
  replies : ∀ d, d.service? = some service → m.replies d = n.replies d
  published : m.fleet.channel.published.filter (·.circuit = service) =
    n.fleet.channel.published.filter (·.circuit = service)
  heard : ∀ i < m.registry.listeners, (m.fleet.journal.heardBy i).filter (·.circuit = service) =
    (n.fleet.journal.heardBy i).filter (·.circuit = service)
  call : ∀ {α : Type} {s t : Session}, s.Manages m → t.Manages n →
    ∀ (scope other : Session.Scope) (steps others : StepsRunner α) (result : Except Fault α)
      (took lasted : Duration) (inside within : List (Step α)),
      (s.call steps scope (some service) result took inside).2.result? =
        (t.call others other (some service) result lasted within).2.result?
  /-- The first turn of an asynchronous call. -/
  launch : ∀ {α : Type} {s t : Session} {job another : Job α}, s.Manages m → t.Manages n →
    job.service = some service → another.service = some service → s.timer = t.timer →
    job.result = another.result → job.took = another.took →
    ∀ (scope other : Session.Scope) (steps others : StepsRunner α),
      (s.launch steps scope job).2.result? = (t.launch others other another).2.result?
  /-- A later turn of one that is under way on a circuit of the service, the first or a later one. -/
  poll : ∀ {α : Type} {s t : Session} {p q : Pending α} (k : Nat), s.Manages m → t.Manages n →
    (m.numbers service)[k]? = some p.circuit → (n.numbers service)[k]? = some q.circuit →
    s.timer = t.timer → p.job.result = q.job.result → p.due = q.due → p.deadline = q.deadline →
    ∀ steps others : StepsRunner α,
      (s.poll steps p).2.result? = (t.poll others q).2.result?

section SameFor

variable {m n : Management} {service : String}

/-- The state of a service is that of its circuit in use. -/
theorem state_eq (m : Management) (service : String) :
    m.registry.state m.fleet service =
      (((m.registry.find? service).bind m.usage?).map Usage.state).getD .closed := by
  unfold Registry.state
  cases m.registry.find? service with
  | none => rfl
  | some i =>
      rw [Option.bind_some, Option.bind_some, circuit_eq, Option.map_map]
      rfl

/-- So are its metrics. -/
theorem metrics_eq (m : Management) (service : String) :
    m.registry.metrics m.fleet service =
      (((m.registry.find? service).bind m.usage?).map
        fun u => u.circuit.metrics u.instant).getD (.untouched service) := by
  unfold Registry.metrics
  cases m.registry.find? service with
  | none => rfl
  | some i =>
      rw [Option.bind_some, Option.bind_some, Fleet.metrics?, usage?, Option.map_map]
      rfl

/-- Those who get hold of the circuit of a service get it as it is in the share. -/
theorem Orderly.usage?_target (h : m.Orderly) (service : String) :
    (m.obtained service).usage? (m.target service) =
      ((m.share service).obtained service).current? := by
  rw [← h.share_obtained, (h.obtained service).current?_share, find?_obtained, Option.bind_some]

/-- There is one. -/
theorem Orderly.usage?_target_isSome (h : m.Orderly) (service : String) :
    ∃ u, (m.obtained service).usage? (m.target service) = some u := by
  have hmem := (h.obtained service).find?_eq_some.mp (m.find?_obtained service)
  obtain ⟨c, hc, _⟩ := (h.obtained service).registered _ hmem
  exact ⟨⟨c, _, _⟩, usage?_eq_some.mpr ⟨hc, rfl, rfl⟩⟩

/-- What can be seen of a service depends on its share, and on what listeners heard of it. -/
theorem sameFor_of_share (hm : m.Orderly) (hn : n.Orderly)
    (hshare : m.share service = n.share service)
    (hheard : ∀ i < m.registry.listeners,
      (m.fleet.journal.heardBy i).filter (·.circuit = service) =
        (n.fleet.journal.heardBy i).filter (·.circuit = service)) : SameFor service m n := by
  have hcircuit : (m.registry.find? service).bind m.usage? =
      (n.registry.find? service).bind n.usage? := by
    rw [← hm.current?_share, ← hn.current?_share, hshare]
  have hcurrent : ∀ o : Management, o.Orderly →
      (o.registry.find? service).isSome = (o.share service).current.isSome := by
    intro o ho
    show _ = ((o.registry.find? service).bind (o.place service)).isSome
    cases hfind : o.registry.find? service with
    | none => rfl
    | some i =>
        obtain ⟨k, hk⟩ := ho.place_of_find hfind
        rw [Option.bind_some, hk]
        rfl
  have htarget : (m.obtained service).usage? (m.target service) =
      (n.obtained service).usage? (n.target service) := by
    rw [hm.usage?_target, hn.usage?_target, hshare]
  obtain ⟨u, hu⟩ := hm.usage?_target_isSome service
  have hv := htarget.symm.trans hu
  have hmade : ∀ k : Nat, (m.numbers service)[k]?.bind m.usage? =
      (n.numbers service)[k]?.bind n.usage? :=
    fun k => congrArg (fun w : Share => w.usage? k) hshare
  have hagree : ∀ v : Usage, v.CallsAgree v := fun v => v.callsAgree rfl rfl rfl rfl
  refine
    { known := ?_
      circuit := hcircuit
      state := ?_
      metrics := ?_
      made := hmade
      replies := ?_
      published := congrArg Share.told hshare
      heard := hheard
      call := ?_
      launch := ?_
      poll := ?_ }
  · rw [hcurrent m hm, hcurrent n hn, hshare]
  · rw [state_eq, state_eq, hcircuit]
  · rw [metrics_eq, metrics_eq, hcircuit]
  · intro d hd
    rw [hm.share_replies hd, hn.share_replies hd, hshare]
  · intro α s t hs ht scope other steps others result took lasted inside within
    exact (hagree u).call (hs.reaches scope hu) (ht.reaches other hv) steps others result took
      lasted inside within
  · intro α s t job another hs ht hjob hanother htimer hresult htook scope other steps others
    refine (hagree u).launch ?_ ?_ htimer hresult htook steps others
    · rw [hjob]
      exact hs.reaches scope hu
    · rw [hanother]
      exact ht.reaches other hv
  · intro α s t p q k hs ht hp hq htimer hresult hdue hdeadline steps others
    have hsame := hmade k
    rw [hp, hq, Option.bind_some, Option.bind_some] at hsame
    have hi : p.circuit < m.fleet.circuits.length :=
      List.mem_range.mp (List.mem_of_mem_filter (List.mem_of_getElem? hp))
    obtain ⟨v, hv⟩ := Option.isSome_iff_exists.mp (usage?_isSome.mpr hi)
    refine (hagree v).poll ?_ ?_ htimer hresult hdue hdeadline steps others
    · rw [Session.circuit?, hs.fleet.circuits]
      exact (usage?_eq_some.mp hv).1
    · rw [Session.circuit?, ht.fleet.circuits]
      exact (usage?_eq_some.mp (hsame.symm.trans hv)).1

end SameFor

/-- What is done with other services cannot be seen: of a service the same can be seen in a run and
in one from which everything is left out that names another service, in whatever order the services
are visited.  Everyone who does something with the service along the way is told the same. -/
theorem services_do_not_interfere (standard : Config) (overrides : List (String × Config))
    (classifier : Option Classifier) (listeners : Nat) (channel : Channel) (service : String)
    {ds es : List Deed}
    (hdeeds : List.Forall₂ Deed.Alike (ds.filter (·.concerns service)) es) :
    let m := start standard overrides classifier listeners channel
    SameFor service (m.deeds ds) (m.deeds es) ∧ m.answers service ds = m.answers service es := by
  intro m
  have hm : m.Orderly := orderly_start standard overrides classifier listeners channel
  obtain ⟨hshare, hanswers⟩ := share_deeds hm hm rfl hdeeds
  refine ⟨sameFor_of_share (hm.deeds ds) (hm.deeds es) hshare ?_, hanswers⟩
  have hall := hm.tells_deeds ds
  have hless := hm.tells_deeds es
  -- What listeners hear is what is published after what the channel held at the start.
  have htold : ((m.changesIn ds).map Prod.snd).filter (·.circuit = service) =
      ((m.changesIn es).map Prod.snd).filter (·.circuit = service) := by
    have hpublished := congrArg Share.told hshare
    simp only [share, hall.published, hless.published, List.filter_append] at hpublished
    exact List.append_cancel_left hpublished
  intro i hi
  rw [hall.listeners] at hi
  rw [hall.heard i hi, hless.heard i hi, List.filter_append, List.filter_append, htold]

/-- A call of one service is under way while another service fails, a third one is forced open and
the second one is removed. -/
def together : List Deed :=
  [.acquire "db", .acquire "web", .use "web" 0 (.complete 0 .failed), .checkAll .backwards,
    .forceOpen "mail", .use "db" 0 (.complete 0 .failed), .remove "web", .resetAll .backwards,
    .forceOpen "db", .acquire "db"]

/-- The same without the other services. -/
def alone : List Deed :=
  [.acquire "db", .checkAll .byName, .use "db" 0 (.complete 0 .failed), .resetAll .byName,
    .forceOpen "db", .acquire "db"]

/-- The first service is told the same. -/
theorem services_do_not_interfere_together :
    let m := start .brief [] none 1 ⟨4, []⟩
    SameFor "db" (m.deeds together) (m.deeds alone) ∧
      m.answers "db" together = m.answers "db" alone ∧
      m.answers "db" together =
        [[.granted], [.nothing], [.nothing], [.rejected ⟨"db", .opened, .longest⟩]] := by
  have hdeeds : List.Forall₂ Deed.Alike (together.filter (·.concerns "db")) alone := by
    have hfilter : together.filter (·.concerns "db") =
        [.acquire "db", .checkAll .backwards, .use "db" 0 (.complete 0 .failed),
          .resetAll .backwards, .forceOpen "db", .acquire "db"] := by
      simp [together, Deed.concerns, Deed.service?]
    rw [hfilter]
    exact .cons (.same _) (.cons (.checkAll _ _) (.cons (.same _) (.cons (.resetAll _ _)
      (.cons (.same _) (.cons (.same _) .nil)))))
  obtain ⟨hsame, hanswers⟩ :=
    services_do_not_interfere .brief [] none 1 ⟨4, []⟩ "db" hdeeds
  exact ⟨hsame, hanswers, by decide +kernel⟩

end Management

end FailFast
