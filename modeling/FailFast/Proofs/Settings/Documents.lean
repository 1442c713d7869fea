import FailFast.Proofs.Settings
import FailFast.Proofs.Toml
import FailFast.Settings.Document

/-!
# What documents set

Each entry has a name in documents.  A table of settings is accepted only if all its keys are such
names, and then every value that it gives stands in the entry of its key, and the other entries are
not set.  So it is with the defaults and with each service.

The document itself is treated otherwise: only its keys `defaults` and `services` are looked for,
and whatever else stands beside them makes no difference.

Main results:

- Theorem `ServiceSettings.readEntries_eq_some_iff`: a table is accepted if and only if each key is
  an entry, and gives exactly its values.
- Theorem `Settings.ofEntries?_eq_some_iff`: so is a document, but for keys beside the two tables.
- Theorem `Settings.read_spelled`: what becomes of the keys of a text.
-/

namespace FailFast

open Toml (Value Entries)

namespace Key

/-- All entries, in order. -/
def all : List Key :=
  [failureRate, minimumCalls, windowKind, windowSize, openWait, trialCalls, trialWait, callTimeout,
    slowCall, slowRate, probesItself, jitter]

theorem mem_all (k : Key) : k ∈ all := by
  cases k <;> decide

/-- The name of an entry in documents. -/
def name : Key → String
  | failureRate => "failure-rate-threshold"
  | minimumCalls => "minimum-number-of-calls"
  | windowKind => "sliding-window-type"
  | windowSize => "sliding-window-size"
  | openWait => "wait-duration-in-open-state-ms"
  | trialCalls => "permitted-number-of-calls-in-half-open-state"
  | trialWait => "max-wait-duration-in-half-open-state-ms"
  | callTimeout => "call-timeout-ms"
  | slowCall => "slow-call-duration-threshold-ms"
  | slowRate => "slow-call-rate-threshold"
  | probesItself => "automatic-transition-from-open-to-half-open"
  | jitter => "jitter-factor"

/-- What a value of a document says in an entry. -/
def read : (k : Key) → Toml.Value → Option k.Value
  | failureRate => Toml.Value.toBinary64?
  | minimumCalls => Toml.Value.toNat?
  | windowKind => Toml.Value.toWindowKind?
  | windowSize => Toml.Value.toNat?
  | openWait => Toml.Value.toNat?
  | trialCalls => Toml.Value.toNat?
  | trialWait => Toml.Value.toNat?
  | callTimeout => Toml.Value.toNat?
  | slowCall => Toml.Value.toNat?
  | slowRate => Toml.Value.toBinary64?
  | probesItself => Toml.Value.toBool?
  | jitter => Toml.Value.toBinary64?

/-- The entries are named in this order. -/
theorem entryNames_eq : ServiceSettings.entryNames = all.map name := rfl

theorem entryNames_nodup : ServiceSettings.entryNames.Nodup := by decide

/-- The names are those of the entries. -/
theorem mem_entryNames {text : String} :
    text ∈ ServiceSettings.entryNames ↔ ∃ k : Key, k.name = text := by
  rw [entryNames_eq, List.mem_map]
  constructor
  · rintro ⟨k, _, hk⟩
    exact ⟨k, hk⟩
  · rintro ⟨k, hk⟩
    exact ⟨k, k.mem_all, hk⟩

/-- No two entries have the same name. -/
theorem name_inj {j k : Key} (h : j.name = k.name) : j = k := by
  have hnodup : (all.map name).Nodup := entryNames_nodup
  exact List.inj_on_of_nodup_map hnodup j.mem_all k.mem_all h

end Key

namespace ServiceSettings

/-! ## One entry -/

/-- Set one entry. -/
def set (s : ServiceSettings) : (k : Key) → k.Value → ServiceSettings
  | .failureRate, x => { s with failureRate := some x }
  | .minimumCalls, n => { s with minimumCalls := some n }
  | .windowKind, kind => { s with windowKind := some kind }
  | .windowSize, n => { s with windowSize := some n }
  | .openWait, n => { s with openWait := some n }
  | .trialCalls, n => { s with trialCalls := some n }
  | .trialWait, n => { s with trialWait := some n }
  | .callTimeout, n => { s with callTimeout := some n }
  | .slowCall, n => { s with slowCall := some n }
  | .slowRate, x => { s with slowRate := some x }
  | .probesItself, b => { s with probesItself := some b }
  | .jitter, x => { s with jitter := some x }

@[simp]
theorem get_set_self (s : ServiceSettings) (k : Key) (x : k.Value) :
    (s.set k x).get k = some x := by
  cases k <;> rfl

/-- The other entries stay. -/
theorem get_set_other (s : ServiceSettings) {j k : Key} (h : j ≠ k) (x : k.Value) :
    (s.set k x).get j = s.get j := by
  cases k <;> cases j <;> first | rfl | exact absurd rfl h

/-- A key that names an entry sets it, if the value says something there. -/
theorem readEntry_name (s : ServiceSettings) (k : Key) (value : Value) :
    s.readEntry k.name value = (k.read value).map (s.set k) := by
  cases k <;> rfl

/-- No other key is accepted. -/
theorem readEntry_eq_some_iff {s t : ServiceSettings} {key : String} {value : Value} :
    s.readEntry key value = some t ↔
      ∃ k x, k.name = key ∧ k.read value = some x ∧ t = s.set k x := by
  constructor
  · intro hread
    by_cases hkey : key ∈ entryNames
    · obtain ⟨k, rfl⟩ := Key.mem_entryNames.mp hkey
      rw [readEntry_name] at hread
      obtain ⟨x, hx, rfl⟩ := Option.map_eq_some_iff.mp hread
      exact ⟨k, x, rfl, hx, rfl⟩
    · rw [readEntry_unknown hkey] at hread
      cases hread
  · rintro ⟨k, x, rfl, hx, rfl⟩
    rw [readEntry_name, hx]
    rfl

/-! ## A table of entries -/

/-- A table spells out the entries of a service: each of its keys is an entry and its value stands
there, and no other entry is set. -/
structure Spelled (s : ServiceSettings) (entries : Entries) : Prop where
  written : ∀ entry ∈ entries, ∃ k x, Key.name k = entry.1 ∧ k.read entry.2 = some x ∧
    s.get k = some x
  unwritten : ∀ k : Key, k.name ∉ entries.map Prod.fst → s.get k = none

/-- Setting the entries of a table in turn, each of its values stands in the entry of its key and
the other entries stay. -/
theorem foldlM_readEntry {entries : Entries} (hdistinct : (entries.map Prod.fst).Nodup)
    {s t : ServiceSettings} :
    entries.foldlM (fun s e => s.readEntry e.1 e.2) s = some t ↔
      (∀ entry ∈ entries, ∃ k x, Key.name k = entry.1 ∧ k.read entry.2 = some x ∧
        t.get k = some x) ∧
      ∀ k : Key, k.name ∉ entries.map Prod.fst → t.get k = s.get k := by
  induction entries generalizing s with
  | nil =>
      constructor
      · intro h
        cases h
        exact ⟨List.forall_mem_nil _, fun _ _ => rfl⟩
      · rintro ⟨_, hrest⟩
        exact congrArg some (ext_get fun k => (hrest k List.not_mem_nil).symm)
  | cons entry rest ih =>
      obtain ⟨key, value⟩ := entry
      rw [List.map_cons, List.nodup_cons] at hdistinct
      rw [List.foldlM_cons]
      constructor
      · intro h
        obtain ⟨next, hnext, h⟩ := Option.bind_eq_some_iff.mp h
        obtain ⟨k, x, rfl, hx, rfl⟩ := readEntry_eq_some_iff.mp hnext
        obtain ⟨hwritten, hrest⟩ := (ih hdistinct.2).mp h
        -- The key does not occur again, so what it set is not set once more.
        constructor
        · refine List.forall_mem_cons.mpr ⟨⟨k, x, rfl, hx, ?_⟩, hwritten⟩
          rw [hrest k hdistinct.1, get_set_self]
        · intro j hj
          rw [List.map_cons, List.mem_cons, not_or] at hj
          rw [hrest j hj.2, get_set_other s (fun hjk => hj.1 (congrArg Key.name hjk))]
      · rintro ⟨hwritten, hrest⟩
        obtain ⟨⟨k, x, rfl, hx, hget⟩, hlater⟩ := List.forall_mem_cons.mp hwritten
        refine Option.bind_eq_some_iff.mpr ⟨s.set k x, ?_, (ih hdistinct.2).mpr ⟨hlater, ?_⟩⟩
        · exact readEntry_eq_some_iff.mpr ⟨k, x, rfl, hx, rfl⟩
        · intro j hj
          by_cases hjk : j = k
          · rw [hjk, hget, get_set_self]
          · rw [get_set_other s hjk]
            refine hrest j ?_
            rw [List.map_cons, List.mem_cons, not_or]
            exact ⟨fun hname => hjk (Key.name_inj hname), hj⟩

/-- A table with distinct keys is accepted as the entries that it spells out. -/
theorem readEntries_eq_some_iff {entries : Entries} (hdistinct : (entries.map Prod.fst).Nodup)
    {s : ServiceSettings} : readEntries entries = some s ↔ s.Spelled entries := by
  rw [readEntries, foldlM_readEntry hdistinct]
  simp only [get_unset]
  exact ⟨fun ⟨hwritten, hrest⟩ => ⟨hwritten, hrest⟩,
    fun ⟨hwritten, hrest⟩ => ⟨hwritten, hrest⟩⟩

end ServiceSettings

/-- The table that a value is, where the first items of an array stand for the entries in order. -/
def Toml.Value.entries? : Value → Option Entries
  | .table _ entries => some entries
  | value => value.toItems?.map (ServiceSettings.entryNames.zip ·)

/-- Its keys are distinct. -/
theorem Toml.Value.Tidy.entries {value : Value} (h : value.Tidy) {entries : Entries}
    (hentries : value.entries? = some entries) : (entries.map Prod.fst).Nodup := by
  have hzip : ∀ items : List Value,
      ((ServiceSettings.entryNames.zip items).map Prod.fst).Nodup := fun items =>
    (keys_zip_sublist ServiceSettings.entryNames items).nodup Key.entryNames_nodup
  cases value with
  | table origin es =>
      cases hentries
      exact (Toml.Value.tidy_table.mp h).distinct
  | array items =>
      cases hentries
      exact hzip items
  | tables sections =>
      cases hentries
      exact hzip _
  | _ => cases hentries

namespace ServiceSettings

/-- A value says what a service sets: it is a table that spells it out. -/
def Says (value : Value) (s : ServiceSettings) : Prop :=
  ∃ entries, value.entries? = some entries ∧ s.Spelled entries

/-- Exactly such values are accepted. -/
theorem ofValue?_eq_some_iff {value : Value} (h : value.Tidy) {s : ServiceSettings} :
    ofValue? value = some s ↔ Says value s := by
  have hread : ofValue? value = value.entries?.bind readEntries := by
    cases value <;> rfl
  rw [hread, Option.bind_eq_some_iff]
  constructor
  · rintro ⟨entries, hentries, hs⟩
    exact ⟨entries, hentries, (readEntries_eq_some_iff (h.entries hentries)).mp hs⟩
  · rintro ⟨entries, hentries, hs⟩
    exact ⟨entries, hentries, (readEntries_eq_some_iff (h.entries hentries)).mpr hs⟩

/-- A value with a key that is no entry says nothing. -/
theorem not_says_of_unknown {value : Value} {entries : Entries}
    (hentries : value.entries? = some entries) {entry : String × Value} (hentry : entry ∈ entries)
    (hunknown : entry.1 ∉ entryNames) (s : ServiceSettings) : ¬Says value s := by
  rintro ⟨same, hsame, hspelled⟩
  rw [hentries] at hsame
  cases hsame
  obtain ⟨k, _, hname, _⟩ := hspelled.written entry hentry
  exact hunknown (Key.mem_entryNames.mpr ⟨k, hname⟩)

end ServiceSettings

namespace Settings

open ServiceSettings (Says)

/-! ## Documents -/

/-- An entry of a table of services says what the service of its name sets. -/
def SaysOne (table : String × Value) (service : String × ServiceSettings) : Prop :=
  service.1 = table.1 ∧ Says table.2 service.2

/-- A table of services says what each of them sets. -/
def SaysAll (value : Value) (services : List (String × ServiceSettings)) : Prop :=
  ∃ origin tables, value = .table origin tables ∧ List.Forall₂ SaysOne tables services

/-- Services are read from their tables one by one. -/
theorem mapM_ofValue?_eq_some_iff {tables : Entries} (htables : ∀ e ∈ tables, e.2.Tidy)
    {services : List (String × ServiceSettings)} :
    (tables.mapM fun e => (ServiceSettings.ofValue? e.2).map (e.1, ·)) = some services ↔
      List.Forall₂ SaysOne tables services := by
  induction tables generalizing services with
  | nil =>
      rw [List.forall₂_nil_left_iff]
      exact ⟨fun hnil => (Option.some.inj hnil).symm, fun hnil => congrArg some hnil.symm⟩
  | cons table rest ih =>
      obtain ⟨hfirst, hrest⟩ := List.forall_mem_cons.mp htables
      rw [List.mapM_cons, List.forall₂_cons_left_iff]
      constructor
      · intro hread
        obtain ⟨service, hservice, hread⟩ := Option.bind_eq_some_iff.mp hread
        obtain ⟨others, hothers, hmade⟩ := Option.bind_eq_some_iff.mp hread
        obtain ⟨own, hown, rfl⟩ := Option.map_eq_some_iff.mp hservice
        cases hmade
        exact ⟨_, others, ⟨rfl, (ServiceSettings.ofValue?_eq_some_iff hfirst).mp hown⟩,
          (ih hrest).mp hothers, rfl⟩
      · rintro ⟨⟨name, own⟩, others, ⟨rfl, hown⟩, hothers, rfl⟩
        refine Option.bind_eq_some_iff.mpr ⟨(table.1, own), ?_, ?_⟩
        · rw [(ServiceSettings.ofValue?_eq_some_iff hfirst).mpr hown]
          rfl
        · exact Option.bind_eq_some_iff.mpr ⟨others, (ih hrest).mpr hothers, rfl⟩

/-- Exactly tables of services are accepted. -/
theorem servicesOf?_eq_some_iff {value : Value} (h : value.Tidy)
    {services : List (String × ServiceSettings)} :
    servicesOf? value = some services ↔ SaysAll value services := by
  cases value with
  | table origin tables =>
      have hvalues := (Toml.Value.tidy_table.mp h).values
      constructor
      · intro hread
        exact ⟨origin, tables, rfl, (mapM_ofValue?_eq_some_iff hvalues).mp hread⟩
      · rintro ⟨_, _, hsame, hsays⟩
        cases hsame
        exact (mapM_ofValue?_eq_some_iff hvalues).mpr hsays
  | _ =>
      refine iff_of_false (fun hread => ?_) ?_
      · cases hread
      · rintro ⟨_, _, hsame, _⟩
        cases hsame

/-- Each of the tables is that of a service. -/
theorem SaysAll.service {origin : Toml.Origin} {tables : Entries}
    {services : List (String × ServiceSettings)} (h : SaysAll (.table origin tables) services)
    {table : String × Value} (htable : table ∈ tables) :
    ∃ service ∈ services, SaysOne table service := by
  obtain ⟨_, _, hsame, hsays⟩ := h
  cases hsame
  induction hsays with
  | nil => cases htable
  | @cons first service _ _ hfirst _ ih =>
      rcases List.mem_cons.mp htable with rfl | hlater
      · exact ⟨service, List.mem_cons_self, hfirst⟩
      · obtain ⟨other, hother, hsays⟩ := ih hlater
        exact ⟨other, List.mem_cons_of_mem _ hother, hsays⟩

/-- The defaults of a document. -/
def defaultsIn? (doc : Entries) : Option BreakerSettings :=
  match doc.lookup "defaults" with
  | none => some .standard
  | some value => (ServiceSettings.ofValue? value).map (·.withDefaults .standard)

/-- The services of a document. -/
def servicesIn? (doc : Entries) : Option (List (String × ServiceSettings)) :=
  match doc.lookup "services" with
  | none => some []
  | some value => servicesOf? value

/-- A document is read table by table. -/
theorem ofEntries?_eq (doc : Entries) :
    ofEntries? doc = do
      let defaults ← defaultsIn? doc
      let services ← servicesIn? doc
      return ⟨defaults, services⟩ := by
  unfold ofEntries? defaultsIn? servicesIn?
  cases doc.lookup "defaults" <;> cases doc.lookup "services" <;> rfl

/-- A document spells out settings: its table `defaults` says the defaults, with the standard
entries where it sets none, its table `services` says the services, and either may be missing. -/
structure Spelled (s : Settings) (doc : Entries) : Prop where
  defaults : ∀ value, doc.lookup "defaults" = some value →
    ∃ own, Says value own ∧ s.defaults = own.withDefaults .standard
  noDefaults : doc.lookup "defaults" = none → s.defaults = .standard
  services : ∀ value, doc.lookup "services" = some value → SaysAll value s.services
  noServices : doc.lookup "services" = none → s.services = []

section Tidy

variable {doc : Entries} (h : doc.Tidy)

include h

/-- The defaults are the standard ones with what the table of defaults says. -/
theorem defaultsIn?_eq_some_iff {defaults : BreakerSettings} :
    defaultsIn? doc = some defaults ↔
      (∀ value, doc.lookup "defaults" = some value →
        ∃ own, Says value own ∧ defaults = own.withDefaults .standard) ∧
      (doc.lookup "defaults" = none → defaults = .standard) := by
  unfold defaultsIn?
  cases hvalue : doc.lookup "defaults" with
  | none => simp [eq_comm]
  | some value =>
      have hread := fun own => ServiceSettings.ofValue?_eq_some_iff (h.of_lookup hvalue) (s := own)
      simp only [Option.map_eq_some_iff, hread]
      simp [eq_comm]

/-- The services are those of the table of services. -/
theorem servicesIn?_eq_some_iff {services : List (String × ServiceSettings)} :
    servicesIn? doc = some services ↔
      (∀ value, doc.lookup "services" = some value → SaysAll value services) ∧
      (doc.lookup "services" = none → services = []) := by
  unfold servicesIn?
  cases hvalue : doc.lookup "services" with
  | none => simp [eq_comm]
  | some value =>
      simp only [servicesOf?_eq_some_iff (h.of_lookup hvalue)]
      simp

/-- Exactly such settings are read from a document. -/
theorem ofEntries?_eq_some_iff {s : Settings} : ofEntries? doc = some s ↔ s.Spelled doc := by
  rw [ofEntries?_eq]
  constructor
  · intro hread
    obtain ⟨defaults, hdefaults, hread⟩ := Option.bind_eq_some_iff.mp hread
    obtain ⟨services, hservices, hmade⟩ := Option.bind_eq_some_iff.mp hread
    cases hmade
    obtain ⟨hown, hstandard⟩ := (defaultsIn?_eq_some_iff h).mp hdefaults
    obtain ⟨hlisted, hnone⟩ := (servicesIn?_eq_some_iff h).mp hservices
    exact ⟨hown, hstandard, hlisted, hnone⟩
  · rintro ⟨hown, hstandard, hlisted, hnone⟩
    refine Option.bind_eq_some_iff.mpr ⟨s.defaults, ?_, ?_⟩
    · exact (defaultsIn?_eq_some_iff h).mpr ⟨hown, hstandard⟩
    · refine Option.bind_eq_some_iff.mpr ⟨s.services, ?_, rfl⟩
      exact (servicesIn?_eq_some_iff h).mpr ⟨hlisted, hnone⟩

end Tidy

/-- A text is read as what its document says, and is malformed otherwise. -/
theorem read_of_parse {text : String} {doc : Entries} (h : Toml.parse text = some doc) :
    read text =
      match ofEntries? doc with
      | some s => .ok s
      | none => .error (.malformed "not a settings document") := by
  rw [read, h]
  rfl

/-- A value of a document that should say the entries of a breaker: the table of the defaults or
that of a service. -/
inductive Holds (doc : Entries) : Value → Prop where
  | defaults {value : Value} (h : doc.lookup "defaults" = some value) : Holds doc value
  | service {origin : Toml.Origin} {tables : Entries} {name : String} {value : Value}
      (h : doc.lookup "services" = some (.table origin tables)) (hmem : (name, value) ∈ tables) :
      Holds doc value

/-- Where settings are read, each such value says something. -/
theorem Spelled.says {s : Settings} {doc : Entries} (h : s.Spelled doc) {value : Value}
    (hvalue : Holds doc value) : ∃ own, Says value own := by
  cases hvalue with
  | defaults hlookup =>
      obtain ⟨own, hown, _⟩ := h.defaults value hlookup
      exact ⟨own, hown⟩
  | service hlookup hmem =>
      obtain ⟨service, _, _, hown⟩ := (h.services _ hlookup).service hmem
      exact ⟨service.2, hown⟩

/-- A text is read if and only if it is a document whose tables `defaults` and `services` spell out
settings, and these are the settings: in both tables every key is an entry, and each value stands in
the entry of its key.  A key inside them that is no entry makes the text malformed.  But all other
keys of the document make no difference to what is read. -/
theorem read_spelled (text : String) :
    (∀ s, read text = .ok s ↔
      ∃ doc, Toml.parse text = some doc ∧ doc.Tidy ∧ s.Spelled doc) ∧
    (∀ doc value entries entry, Toml.parse text = some doc → Holds doc value →
      value.entries? = some entries → entry ∈ entries →
      entry.1 ∉ ServiceSettings.entryNames →
      read text = .error (.malformed "not a settings document")) ∧
    (∀ doc text' doc', Toml.parse text = some doc → Toml.parse text' = some doc' →
      doc.lookup "defaults" = doc'.lookup "defaults" →
      doc.lookup "services" = doc'.lookup "services" → read text = read text') := by
  refine ⟨?_, ?_, ?_⟩
  · intro s
    constructor
    · intro hread
      cases hparse : Toml.parse text with
      | none =>
          rw [read, hparse] at hread
          cases hread
      | some doc =>
          rw [read_of_parse hparse] at hread
          have htidy := Toml.parse_tidy hparse
          cases hentries : ofEntries? doc with
          | none =>
              rw [hentries] at hread
              cases hread
          | some same =>
              rw [hentries] at hread
              cases hread
              exact ⟨doc, rfl, htidy, (ofEntries?_eq_some_iff htidy).mp hentries⟩
    · rintro ⟨doc, hparse, htidy, hspelled⟩
      rw [read_of_parse hparse, (ofEntries?_eq_some_iff htidy).mpr hspelled]
  · intro doc value entries entry hparse hvalue hentries hentry hunknown
    rw [read_of_parse hparse]
    cases hsettings : ofEntries? doc with
    | none => rfl
    | some s =>
        have hspelled := (ofEntries?_eq_some_iff (Toml.parse_tidy hparse)).mp hsettings
        obtain ⟨own, hown⟩ := hspelled.says hvalue
        exact absurd hown (ServiceSettings.not_says_of_unknown hentries hentry hunknown own)
  · intro doc text' doc' hparse hparse' hdefaults hservices
    rw [read_of_parse hparse, read_of_parse hparse', ofEntries?_eq, ofEntries?_eq, defaultsIn?,
      servicesIn?, hdefaults, hservices]
    rfl

/-- A text that sets one entry of the defaults and one of a service. -/
def twoTables : String :=
  "[defaults]\nminimum-number-of-calls = 5\n[services.pay]\ncall-timeout-ms = 2000\n"

/-- Both values reach the settings, while a misspelled key among the defaults makes a text
malformed. -/
theorem two_tables_read :
    (∃ doc, Toml.parse twoTables = some doc ∧ doc.Tidy ∧
      Spelled
        ⟨{ BreakerSettings.standard with minimumCalls := 5 },
          [("pay", { ServiceSettings.unset with callTimeout := some 2000 })]⟩ doc) ∧
    read "[defaults]\nfailure-threshold = 3\n" = .error (.malformed "not a settings document") := by
  refine ⟨((read_spelled twoTables).1 _).mp (by decide +kernel), ?_⟩
  have hkeys : (((Toml.parse "[defaults]\nfailure-threshold = 3\n").bind
      (·.lookup "defaults")).bind (·.entries?)).map (·.map Prod.fst) =
        some ["failure-threshold"] := by
    decide +kernel
  obtain ⟨entries, hentries, hkeys⟩ := Option.map_eq_some_iff.mp hkeys
  obtain ⟨value, hvalue, hentries⟩ := Option.bind_eq_some_iff.mp hentries
  obtain ⟨doc, hdoc, hvalue⟩ := Option.bind_eq_some_iff.mp hvalue
  have hkey : "failure-threshold" ∈ entries.map Prod.fst := by
    rw [hkeys]
    exact List.mem_cons_self
  obtain ⟨entry, hentry, hname⟩ := List.mem_map.mp hkey
  refine (read_spelled _).2.1 doc value entries entry hdoc (.defaults hvalue) hentries hentry ?_
  rw [hname]
  decide

/-- But a misspelled table is accepted, and what it sets is lost. -/
theorem misspelled_table_read :
    ((Toml.parse "[default]\nfailure-rate-threshold = 25.0\n").map fun doc => doc.map Prod.fst) =
        some ["default"] ∧
      "default" ∉ ["defaults", "services"] ∧
      read "[default]\nfailure-rate-threshold = 25.0\n" = .ok .standard := by
  decide +kernel

end Settings

end FailFast
