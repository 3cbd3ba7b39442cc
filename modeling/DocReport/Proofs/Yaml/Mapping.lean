import DocReport.Markup.Tag
import DocReport.Yaml.Document

/-!
Mappings in the values of documents. Each key stands in a mapping once, so that what is listed under
a key is what looking the key up gives.
-/
namespace DocReport.Yaml

open Markup (bind_ok)

namespace Value

/-! ### Equality -/

mutual

/-- Whether two values are the same. -/
def same : Value → Value → Bool
  | .null, .null => true
  | .bool a, .bool b => a == b
  | .int a, .int b => a == b
  | .float a, .float b => a == b
  | .text a, .text b => a == b
  | .date a, .date b => a == b
  | .moment a c, .moment b d => a == b && c == d
  | .list a, .list b => sameItems a b
  | .map a, .map b => sameEntries a b
  | _, _ => false

/-- Whether two lists are the same. -/
def sameItems : List Value → List Value → Bool
  | [], [] => true
  | a :: r, b :: s => same a b && sameItems r s
  | _, _ => false

/-- Whether two mappings are the same, in order. -/
def sameEntries : List (Value × Value) → List (Value × Value) → Bool
  | [], [] => true
  | (a, c) :: r, (b, d) :: s => same a b && same c d && sameEntries r s
  | _, _ => false

end

mutual

theorem same_iff (a b : Value) : same a b = true ↔ a = b := by
  cases a with
  | list items => cases b <;> simp [same, sameItems_iff items]
  | map entries => cases b <;> simp [same, sameEntries_iff entries]
  | _ => cases b <;> simp [same]

theorem sameItems_iff (a b : List Value) : sameItems a b = true ↔ a = b := by
  cases a with
  | nil => cases b <;> simp [sameItems]
  | cons first rest => cases b <;> simp [sameItems, same_iff first, sameItems_iff rest]

theorem sameEntries_iff (a b : List (Value × Value)) : sameEntries a b = true ↔ a = b := by
  cases a with
  | nil => cases b <;> simp [sameEntries]
  | cons first rest =>
    obtain ⟨key, value⟩ := first
    cases b <;> simp [sameEntries, same_iff key, same_iff value, sameEntries_iff rest, Prod.ext_iff]

end

instance : DecidableEq Value := fun a b => decidable_of_iff _ (same_iff a b)

/-! ### Keys -/

theorem sameKey_text {key : Value} {name : Text} :
    sameKey key (.text name) = true ↔ key = .text name := by
  cases key <;> simp [sameKey]

/-- Entries no two of which have the same key. -/
def DistinctKeys (entries : List (Value × Value)) : Prop :=
  entries.Pairwise fun a b => sameKey a.1 b.1 = false

theorem mem_of_entry? {key : Text} {entries : List (Value × Value)} {value : Value}
    (found : entry? key entries = some value) : (.text key, value) ∈ entries := by
  obtain ⟨⟨name, held⟩, first, rfl⟩ := Option.map_eq_some_iff.1 found
  have same : name = .text key := sameKey_text.1 (by simpa using List.find?_some first)
  exact same ▸ List.mem_of_find?_eq_some first

theorem entry?_of_mem {key : Text} {entries : List (Value × Value)} {value : Value}
    (distinct : DistinctKeys entries) (member : (.text key, value) ∈ entries) :
    entry? key entries = some value := by
  induction entries with
  | nil => cases member
  | cons first rest ih =>
    obtain ⟨apart, others⟩ := List.pairwise_cons.1 distinct
    rcases List.mem_cons.1 member with rfl | later
    · simp [ entry?, sameKey]
    · have differs : sameKey first.1 (.text key) = false := apart _ later
      have skipped : entry? key (first :: rest) = entry? key rest := by
        simp [ entry?, differs]
      rw [skipped, ih others later]

/-- What is in a mapping after an entry was put in: keys and values are those of the entry or those
that were there before. -/
theorem mem_insert {key value : Value} {entries : List (Value × Value)} {e : Value × Value}
    (member : e ∈ insert key value entries) :
    (e.1 = key ∨ ∃ old ∈ entries, old.1 = e.1) ∧ (e.2 = value ∨ e ∈ entries) := by
  induction entries with
  | nil =>
    rw [List.mem_singleton.1 member]
    exact ⟨.inl rfl, .inl rfl⟩
  | cons first rest ih =>
    have stays (held : e ∈ first :: rest) :
        (e.1 = key ∨ ∃ old ∈ first :: rest, old.1 = e.1) ∧ (e.2 = value ∨ e ∈ first :: rest) :=
      ⟨.inr ⟨e, held, rfl⟩, .inr held⟩
    rw [insert] at member
    split at member
    · rcases List.mem_cons.1 member with rfl | later
      · exact ⟨.inr ⟨first, List.mem_cons_self, rfl⟩, .inl rfl⟩
      · exact stays (List.mem_cons_of_mem _ later)
    · rcases List.mem_cons.1 member with rfl | later
      · exact stays List.mem_cons_self
      · refine ⟨(ih later).1.imp_right ?_, (ih later).2.imp_right (List.mem_cons_of_mem _)⟩
        rintro ⟨old, held, same⟩
        exact ⟨old, List.mem_cons_of_mem _ held, same⟩

theorem DistinctKeys.insert {entries : List (Value × Value)} (distinct : DistinctKeys entries)
    (key value : Value) : DistinctKeys (insert key value entries) := by
  induction entries with
  | nil => exact List.pairwise_singleton _ _
  | cons first rest ih =>
    obtain ⟨apart, others⟩ := List.pairwise_cons.1 distinct
    rw [Value.insert]
    split
    · exact List.pairwise_cons.2 ⟨apart, others⟩
    · rename_i differs
      refine List.pairwise_cons.2 ⟨fun e member => ?_, ih others⟩
      rcases (mem_insert member).1 with own | ⟨old, held, same⟩
      · simpa [own] using differs
      · exact same ▸ apart old held

/-- A value in which every mapping has each key once. -/
inductive Proper : Value → Prop
  | atom {value : Value} (atomic : value.isAtomic = true) : Proper value
  | list {items : List Value} (each : ∀ item ∈ items, Proper item) : Proper (.list items)
  | map {entries : List (Value × Value)} (distinct : DistinctKeys entries)
      (each : ∀ e ∈ entries, Proper e.2) : Proper (.map entries)

theorem Proper.distinct {entries : List (Value × Value)} (proper : Proper (.map entries)) :
    DistinctKeys entries := by
  cases proper with
  | atom atomic => cases atomic
  | map distinct _ => exact distinct

theorem Proper.entry {entries : List (Value × Value)} (proper : Proper (.map entries))
    {e : Value × Value} (member : e ∈ entries) : Proper e.2 := by
  cases proper with
  | atom atomic => cases atomic
  | map _ each => exact each e member

end Value

open Value (Proper DistinctKeys)

theorem isAtomic_timestampValue {t : Text} {value : Value} (read : timestampValue t = .ok value) :
    value.isAtomic = true := by
  unfold timestampValue at read
  split at read
  · cases read
  · split at read
    · cases read
    · split at read <;> cases read <;> rfl

/-- Scalars are no collections. -/
theorem isAtomic_scalarValue {tag : Option Text} {plain : Bool} {t : Text} {value : Value}
    (read : scalarValue tag plain t = .ok value) : value.isAtomic = true := by
  unfold scalarValue at read
  split at read
  · cases read
  · cases read
  · cases read
  · cases read; rfl
  · cases read; rfl
  · split at read <;> cases read <;> rfl
  · split at read <;> cases read <;> rfl
  · split at read <;> cases read <;> rfl
  · exact isAtomic_timestampValue read

theorem Value.Proper.insert {entries : List (Value × Value)} (proper : Proper (.map entries))
    (key : Value) {value : Value} (own : Proper value) : Proper (.map (insert key value entries)) :=
  .map (proper.distinct.insert key value) fun _ member =>
    (Value.mem_insert member).2.elim (fun new => new ▸ own) proper.entry

/-- By induction on the fuel, for nodes, for the items of lists and for the entries of mappings at
once; the entries so far are the invariant of the last. -/
theorem proper_values (fuel : Nat) :
    (∀ node value, nodeValue fuel node = .ok value → Proper value) ∧
    (∀ items values, itemValues fuel items = .ok values → ∀ value ∈ values, Proper value) ∧
    (∀ sofar entries all, Proper (.map sofar) → entryValues fuel sofar entries = .ok all →
      Proper (.map all)) := by
  induction fuel with
  | zero =>
    refine ⟨fun _ _ read => ?_, fun _ _ read => ?_, fun _ _ _ _ read => ?_⟩
    · rw [nodeValue] at read; cases read
    · rw [itemValues] at read; cases read
    · rw [entryValues] at read; cases read
  | succ fuel ih =>
    obtain ⟨nodes, lists, maps⟩ := ih
    refine ⟨fun node value read => ?_, fun items values read => ?_,
      fun sofar entries all proper read => ?_⟩
    · cases node with
      | scalar tag plain t => exact .atom (isAtomic_scalarValue read)
      | sequence tag items =>
        rw [nodeValue] at read
        split at read
        · obtain ⟨values, items, done⟩ := bind_ok read
          cases done
          exact .list (lists _ _ items)
        · cases read
      | mapping tag entries =>
        rw [nodeValue] at read
        split at read
        · obtain ⟨flat, -, read⟩ := bind_ok read
          obtain ⟨values, entries, done⟩ := bind_ok read
          cases done
          exact maps _ _ _ (.map .nil (by simp)) entries
        · cases read
    · cases items with
      | nil =>
        cases read
        simp
      | cons item rest =>
        rw [itemValues] at read
        obtain ⟨first, own, read⟩ := bind_ok read
        obtain ⟨others, later, done⟩ := bind_ok read
        cases done
        exact List.forall_mem_cons.2 ⟨nodes _ _ own, lists _ _ later⟩
    · cases entries with
      | nil =>
        cases read
        exact proper
      | cons entry rest =>
        rw [entryValues] at read
        obtain ⟨key, -, read⟩ := bind_ok read
        split at read
        · obtain ⟨value, own, read⟩ := bind_ok read
          exact maps _ _ _ (proper.insert key (nodes _ _ own)) read
        · cases read

/-- In the value of a document every mapping has each key once. -/
theorem proper_of_load {t : Text} {value : Value} (loaded : load t = .ok value) : Proper value := by
  rw [load] at loaded
  obtain ⟨ts, -, loaded⟩ := bind_ok loaded
  obtain ⟨document, -, loaded⟩ := bind_ok loaded
  cases document with
  | none =>
    cases loaded
    exact .atom rfl
  | some node => exact (proper_values _).1 node value loaded

end DocReport.Yaml
