import Mathlib.Data.List.Nodup
import FailFast.Proofs.Tables
import FailFast.Toml.Document

/-!
# Keys in documents

A document names each key of a table once, and so does every table within it, whether its keys stand
on lines of their own, below headers, behind dots or within braces.  What adds a key refuses one
that is taken, and what changes the value of a key leaves all keys.

Main results:

- Theorem `Entries.Tidy.edit`: the change of one table keeps the tables around it.
- Theorem `readsTidy_value`: every value that is read names its keys once.
- Theorem `parse_tidy`: every document does.
-/

namespace FailFast.Toml

/-- No table within a value names a key twice. -/
inductive Value.Tidy : Value → Prop where
  | string (text : String) : Tidy (.string text)
  | integer (value : Int) : Tidy (.integer value)
  | float (value : Binary64) : Tidy (.float value)
  | boolean (value : Bool) : Tidy (.boolean value)
  | dateTime (text : String) : Tidy (.dateTime text)
  | array {items : List Value} (hitems : ∀ v ∈ items, Tidy v) : Tidy (.array items)
  | table {origin : Origin} {entries : List (String × Value)}
      (hdistinct : (entries.map Prod.fst).Nodup) (hvalues : ∀ e ∈ entries, Tidy e.2) :
      Tidy (.table origin entries)
  | tables {sections : List (List (String × Value))}
      (hdistinct : ∀ es ∈ sections, (es.map Prod.fst).Nodup)
      (hvalues : ∀ es ∈ sections, ∀ e ∈ es, Tidy e.2) : Tidy (.tables sections)

/-- A table names each key once, and so do the tables within its values. -/
structure Entries.Tidy (es : Entries) : Prop where
  distinct : (es.map Prod.fst).Nodup
  values : ∀ e ∈ es, e.2.Tidy

theorem Value.tidy_table {origin : Origin} {es : Entries} :
    (Value.table origin es).Tidy ↔ es.Tidy := by
  constructor
  · intro h
    cases h with
    | table hdistinct hvalues => exact ⟨hdistinct, hvalues⟩
  · rintro ⟨hdistinct, hvalues⟩
    exact .table hdistinct hvalues

theorem Value.tidy_tables {sections : List Entries} :
    (Value.tables sections).Tidy ↔ ∀ es ∈ sections, Entries.Tidy es := by
  constructor
  · intro h
    cases h with
    | tables hdistinct hvalues => exact fun es hes => ⟨hdistinct es hes, hvalues es hes⟩
  · intro h
    exact .tables (fun es hes => (h es hes).distinct) fun es hes => (h es hes).values

/-! ## Changing tables -/

namespace Entries.Tidy

variable {es : Entries} {key : String} {v : Value}

theorem nil : Entries.Tidy [] := ⟨List.nodup_nil, List.forall_mem_nil _⟩

/-- What is looked up is tidy. -/
theorem of_lookup (h : es.Tidy) (hlookup : es.lookup key = some v) : v.Tidy :=
  h.values _ (mem_of_lookup hlookup)

/-- A new key may be added. -/
theorem append_new (h : es.Tidy) (hnew : es.lookup key = none) (hv : v.Tidy) :
    Entries.Tidy (es ++ [(key, v)]) where
  distinct := by
    rw [List.map_append, List.nodup_append]
    refine ⟨h.distinct, List.nodup_singleton key, ?_⟩
    intro other hother last hlast
    rw [List.mem_singleton.mp hlast]
    rintro rfl
    exact lookup_eq_none_iff_not_mem.mp hnew hother
  values e he := by
    rcases List.mem_append.mp he with hold | hnew
    · exact h.values e hold
    · rw [List.mem_singleton.mp hnew]
      exact hv

/-- The value of a key may be changed. -/
theorem replace (h : es.Tidy) (hv : v.Tidy) : (es.replace key v).Tidy where
  distinct := by
    have hkeys : (es.replace key v).map Prod.fst = es.map Prod.fst := by
      rw [Entries.replace, List.map_map]
      refine List.map_congr_left fun e _ => ?_
      by_cases hkey : e.1 = key <;> simp [hkey]
    rw [hkeys]
    exact h.distinct
  values e he := by
    obtain ⟨old, hold, rfl⟩ := List.mem_map.mp he
    split
    · exact hv
    · exact h.values old hold

/-- The table at the end of a path may be changed to a tidy one. -/
theorem edit {byDots : Bool} {change : Origin → Entries → Option Entries}
    (hchange : ∀ origin sub changed, Entries.Tidy sub → change origin sub = some changed →
      Entries.Tidy changed) {path : List String} {origin : Origin} {changed : Entries}
    (h : es.Tidy) (hedit : Entries.edit byDots change path origin es = some changed) :
    changed.Tidy := by
  induction path generalizing origin es changed with
  | nil => exact hchange origin es changed h hedit
  | cons key rest ih =>
      rw [Entries.edit] at hedit
      split at hedit
      · -- A missing table is made from nothing.
        rename_i hnew
        obtain ⟨sub, hsub, hmade⟩ := Option.bind_eq_some_iff.mp hedit
        cases hmade
        exact h.append_new hnew (Value.tidy_table.mpr (ih nil hsub))
      · cases hedit
      · rename_i sub hfound
        split at hedit
        · cases hedit
        · obtain ⟨next, hnext, hmade⟩ := Option.bind_eq_some_iff.mp hedit
          cases hmade
          have hsub := Value.tidy_table.mp (h.of_lookup hfound)
          exact h.replace (Value.tidy_table.mpr (ih hsub hnext))
      · rename_i sub _ _ hfound
        obtain ⟨next, hnext, hmade⟩ := Option.bind_eq_some_iff.mp hedit
        cases hmade
        have hsub := Value.tidy_table.mp (h.of_lookup hfound)
        exact h.replace (Value.tidy_table.mpr (ih hsub hnext))
      · -- In a list of tables only the latest one changes.
        rename_i sections hfound
        split at hedit
        · cases hedit
        · rename_i latest hlatest
          obtain ⟨next, hnext, hmade⟩ := Option.bind_eq_some_iff.mp hedit
          cases hmade
          have hsections := Value.tidy_tables.mp (h.of_lookup hfound)
          have hlast := hsections latest (List.mem_of_getLast? hlatest)
          refine h.replace (Value.tidy_tables.mpr ?_)
          intro es hes
          rcases List.mem_append.mp hes with hearlier | hnew
          · exact hsections es ((List.dropLast_sublist sections).subset hearlier)
          · rw [List.mem_singleton.mp hnew]
            exact ih hlast hnext
      · cases hedit

/-- What an implied table holds is tidy. -/
theorem implied (h : es.Tidy) (path : List String) : (Entries.implied path es).Tidy := by
  induction path generalizing es with
  | nil => exact nil
  | cons key rest ih =>
      rw [Entries.implied]
      split
      · rename_i origin sub hfound
        have hsub := Value.tidy_table.mp (h.of_lookup hfound)
        split
        · split
          · exact hsub
          · exact nil
        · exact ih hsub
      · rename_i sections hfound
        have hsections := Value.tidy_tables.mp (h.of_lookup hfound)
        cases hlast : sections.getLast? with
        | none => exact ih nil
        | some latest => exact ih (hsections latest (List.mem_of_getLast? hlast))
      · exact nil

/-- A new key may be given its value. -/
theorem assign {path : Path} {changed : Entries} (h : es.Tidy) (hv : v.Tidy)
    (hassign : es.assign path v = some changed) : changed.Tidy := by
  refine h.edit ?_ hassign
  intro origin sub changed hsub hchange
  split at hchange
  · cases hchange
  · split at hchange
    · cases hchange
    · rename_i hfree
      cases hchange
      rw [Bool.not_eq_true, Option.isSome_eq_false_iff, Option.isNone_iff_eq_none] at hfree
      exact hsub.append_new hfree hv

end Entries.Tidy

/-! ## Drafts -/

/-- The finished part and the section that is being filled are tidy. -/
structure Draft.Tidy (d : Draft) : Prop where
  root : d.root.Tidy
  body : d.body.Tidy

namespace Draft.Tidy

variable {d : Draft}

/-- A key may be added to the section. -/
theorem assign {path : Path} {v : Value} {next : Draft} (h : d.Tidy) (hv : v.Tidy)
    (hassign : d.assign path v = some next) : next.Tidy := by
  obtain ⟨body, hbody, hmade⟩ := Option.bind_eq_some_iff.mp hassign
  cases hmade
  exact ⟨h.root, h.body.assign hv hbody⟩

/-- The finished section has its place. -/
theorem closeSection {root : Entries} (h : d.Tidy) (hclose : d.closeSection = some root) :
    root.Tidy := by
  unfold Draft.closeSection at hclose
  split at hclose
  · cases hclose
    exact h.body
  · rename_i header _
    refine h.root.edit ?_ hclose
    intro origin es changed hes hchange
    split at hchange
    · rename_i hnew
      cases hchange
      exact hes.append_new hnew (Value.tidy_tables.mpr (List.forall_mem_singleton.mpr h.body))
    · rename_i sections _ hfound
      cases hchange
      refine hes.replace (Value.tidy_tables.mpr ?_)
      intro es hes'
      rcases List.mem_append.mp hes' with hearlier | hnew
      · exact Value.tidy_tables.mp (hes.of_lookup hfound) es hearlier
      · rw [List.mem_singleton.mp hnew]
        exact h.body
    · cases hchange
    · rename_i hnew
      cases hchange
      exact hes.append_new hnew (Value.tidy_table.mpr h.body)
    · cases hchange
      exact hes.replace (Value.tidy_table.mpr h.body)
    · cases hchange

/-- And the next section may begin. -/
theorem openSection {header : Header} {next : Draft} (h : d.Tidy)
    (hopen : d.openSection header = some next) : next.Tidy := by
  obtain ⟨root, hroot, hmade⟩ := Option.bind_eq_some_iff.mp hopen
  cases hmade
  have htidy := h.closeSection hroot
  refine ⟨htidy, ?_⟩
  simp only
  split
  · exact Entries.Tidy.nil
  · exact htidy.implied _

end Draft.Tidy

/-! ## Reading -/

/-- A reader reads tidy values only. -/
def ReadsTidy (item : Reader Value) : Prop := ∀ cs v rest, item cs = some (v, rest) → v.Tidy

/-- What is made of a text or a number that was read is tidy if all such values are. -/
theorem tidy_of_map {α : Type} {make : α → Value} (hmake : ∀ a, (make a).Tidy)
    {found : Option (α × List Char)} {v : Value} {rest : List Char}
    (hread : (found.map fun (a, rest) => (make a, rest)) = some (v, rest)) : v.Tidy := by
  obtain ⟨⟨a, _⟩, _, hmade⟩ := Option.map_eq_some_iff.mp hread
  cases hmade
  exact hmake a

/-- Numbers, dates and times are tidy. -/
theorem readsTidy_numeric : ReadsTidy numeric := by
  intro cs v rest hread
  unfold numeric at hread
  split at hread
  · cases hread
    exact .dateTime _
  · split at hread
    · cases hread
      exact .float _
    · exact tidy_of_map .integer hread

/-- So is what a word stands for. -/
theorem readsTidy_keyword {word : String} {v : Value} (hv : v.Tidy) :
    ReadsTidy (keyword word v) := by
  intro cs w rest hread
  unfold keyword at hread
  split at hread
  · cases hread
    exact hv
  · cases hread

/-- So are all values that are not made of other values. -/
theorem readsTidy_scalar : ReadsTidy scalar := by
  intro cs v rest hread
  unfold scalar at hread
  split at hread
  · cases hread
  · split at hread
    · exact tidy_of_map .string hread
    split at hread
    · exact readsTidy_numeric _ _ _ hread
    split at hread
    · exact readsTidy_keyword (.boolean true) _ _ _ hread
    split at hread
    · exact readsTidy_keyword (.boolean false) _ _ _ hread
    split at hread
    · exact tidy_of_map .float hread
    · cases hread

section Items

variable {item : Reader Value} (hitem : ReadsTidy item)

include hitem

/-- The items of an array are tidy when a reader of items is. -/
theorem arrayItems_tidy {fuel : Nat} {cs rest : List Char} {items : List Value}
    (hread : arrayItems item fuel cs = some (items, rest)) : ∀ v ∈ items, v.Tidy := by
  induction fuel generalizing cs rest items with
  | zero => cases hread
  | succ fuel ih =>
      rw [arrayItems] at hread
      split at hread
      · cases hread
        exact List.forall_mem_nil _
      · obtain ⟨⟨v, _⟩, hv, hread⟩ := Option.bind_eq_some_iff.mp hread
        have htidy := hitem _ _ _ hv
        simp only at hread
        split at hread
        · obtain ⟨⟨values, _⟩, hvalues, hmade⟩ := Option.bind_eq_some_iff.mp hread
          cases hmade
          exact List.forall_mem_cons.mpr ⟨htidy, ih hvalues⟩
        · cases hread
          exact List.forall_mem_singleton.mpr htidy
        · cases hread

/-- So is the value after a key. -/
theorem keyValue_tidy {cs rest : List Char} {path : Path} {v : Value}
    (hread : keyValue item cs = some ((path, v), rest)) : v.Tidy := by
  obtain ⟨_, _, hread⟩ := Option.bind_eq_some_iff.mp hread
  obtain ⟨_, _, hread⟩ := Option.bind_eq_some_iff.mp hread
  obtain ⟨⟨w, _⟩, hw, hmade⟩ := Option.bind_eq_some_iff.mp hread
  cases hmade
  exact hitem _ _ _ hw

/-- So are the entries of an inline table. -/
theorem inlineEntries_tidy {fuel : Nat} {cs rest : List Char} {done es : Entries} (h : done.Tidy)
    (hread : inlineEntries item fuel done cs = some (es, rest)) : es.Tidy := by
  induction fuel generalizing cs rest done es with
  | zero => cases hread
  | succ fuel ih =>
      rw [inlineEntries] at hread
      obtain ⟨⟨⟨path, v⟩, _⟩, hv, hread⟩ := Option.bind_eq_some_iff.mp hread
      obtain ⟨next, hnext, hread⟩ := Option.bind_eq_some_iff.mp hread
      have htidy := h.assign (keyValue_tidy hitem hv) hnext
      split at hread
      · exact ih htidy hread
      · cases hread
        exact htidy
      · cases hread

end Items

/-- Every value is tidy, however deep it nests others. -/
theorem readsTidy_value (depth : Nat) : ReadsTidy (value depth) := by
  induction depth with
  | zero => exact readsTidy_scalar
  | succ depth ih =>
      intro cs v rest hread
      simp only [value] at hread
      split at hread
      · obtain ⟨⟨items, _⟩, hitems, hmade⟩ := Option.map_eq_some_iff.mp hread
        cases hmade
        exact .array (arrayItems_tidy ih hitems)
      · split at hread
        · cases hread
          exact Value.tidy_table.mpr Entries.Tidy.nil
        · obtain ⟨⟨es, _⟩, hes, hmade⟩ := Option.map_eq_some_iff.mp hread
          cases hmade
          exact Value.tidy_table.mpr (inlineEntries_tidy ih Entries.Tidy.nil hes)
      · exact readsTidy_scalar _ _ _ hread

/-- So is the value on a key line. -/
theorem keyLine_tidy {cs rest : List Char} {path : Path} {v : Value}
    (hread : keyLine cs = some ((path, v), rest)) : v.Tidy := by
  obtain ⟨⟨entry, _⟩, hentry, hread⟩ := Option.bind_eq_some_iff.mp hread
  obtain ⟨_, _, hmade⟩ := Option.bind_eq_some_iff.mp hread
  cases hmade
  exact keyValue_tidy (readsTidy_value _) hentry

/-- Reading lines keeps a draft tidy. -/
theorem lines_tidy {fuel : Nat} {d last : Draft} {cs : List Char} (h : d.Tidy)
    (hread : lines fuel d cs = some last) : last.Tidy := by
  induction fuel generalizing d cs with
  | zero => cases hread
  | succ fuel ih =>
      rw [lines] at hread
      split at hread
      · cases hread
        exact h
      · obtain ⟨_, _, hread⟩ := Option.bind_eq_some_iff.mp hread
        exact ih h hread
      · obtain ⟨⟨header, _⟩, _, hread⟩ := Option.bind_eq_some_iff.mp hread
        obtain ⟨next, hnext, hread⟩ := Option.bind_eq_some_iff.mp hread
        exact ih (h.openSection hnext) hread
      · split at hread
        · exact ih h hread
        · obtain ⟨⟨⟨path, v⟩, _⟩, hline, hread⟩ := Option.bind_eq_some_iff.mp hread
          obtain ⟨next, hnext, hread⟩ := Option.bind_eq_some_iff.mp hread
          exact ih (h.assign (keyLine_tidy hline) hnext) hread

/-- A document names each key of each table once. -/
theorem parse_tidy {text : String} {doc : Entries} (h : parse text = some doc) : doc.Tidy := by
  obtain ⟨last, hlines, hclose⟩ := Option.bind_eq_some_iff.mp h
  have hstart : Draft.start.Tidy := ⟨Entries.Tidy.nil, Entries.Tidy.nil⟩
  exact (lines_tidy hstart hlines).closeSection hclose

end FailFast.Toml
