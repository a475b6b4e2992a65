/-
  LintServer.Proofs.Distinct — a document that was read names nothing twice.

  What a statement does to a document keeps its tables free of keys that come twice: a field is
  only added where there is none of its name, and a header makes tables or goes through those that
  are there (`Distinct.modify`). A table between braces grows in the same way. So in every document
  that is read (`distinct_of_read`), and in all that it holds, a key has one value.
-/

import LintServer.Toml.Reader
import LintServer.Proofs.Outcomes

namespace LintServer.Toml

/-- No table in the value has a key twice. -/
inductive Distinct : Value → Prop
  | plain {v : Value} (h : State.isClosed v = false) : Distinct v
  | arr {items : List Value} (h : ∀ v ∈ items, Distinct v) : Distinct (.arr items)
  | table {fields : Fields} (keys : (Table.keys fields).Nodup) (h : ∀ f ∈ fields, Distinct f.2) :
      Distinct (.table fields)

namespace Distinct

variable {fields after : Fields} {v : Value}

theorem keys (h : Distinct (.table fields)) : (Table.keys fields).Nodup := by
  cases h with
  | plain h => cases h
  | table keys _ => exact keys

theorem field (h : Distinct (.table fields)) {f : String × Value} (hf : f ∈ fields) :
    Distinct f.2 := by
  cases h with
  | plain h => cases h
  | table _ h => exact h f hf

theorem get? (h : Distinct (.table fields)) {name : String} (hv : Table.get? fields name = some v) :
    Distinct v := h.field (Table.mem_of_get? hv)

theorem item {items : List Value} (h : Distinct (.arr items)) (hv : v ∈ items) : Distinct v := by
  cases h with
  | plain h => cases h
  | arr h => exact h v hv

theorem empty : Distinct (.table []) := .table List.nodup_nil (by simp)

theorem put (h : Distinct (.table fields)) (hv : Distinct v) (name : String) :
    Distinct (.table (Table.put name v fields)) := by
  refine .table (Table.nodup_put h.keys name v) fun f hf => ?_
  rcases Table.mem_put hf with rfl | hf
  · exact hv
  · exact h.field hf

theorem snoc {items : List Value} (h : ∀ u ∈ items, Distinct u) (hv : Distinct v) :
    Distinct (.arr (items ++ [v])) := by
  refine .arr fun u hu => ?_
  rcases List.mem_append.mp hu with hu | hu
  · exact h u hu
  · rwa [List.mem_singleton.mp hu]

/-- What keeps keys apart in the table at the end of a path keeps them apart everywhere. -/
theorem modify {throughArrays : Bool} {change : Fields → Option Fields}
    (hchange : ∀ {fields after}, Distinct (.table fields) → change fields = some after →
      Distinct (.table after))
    {key : Key} (h : Distinct (.table fields))
    (hm : Toml.modify throughArrays change key fields = some after) : Distinct (.table after) := by
  induction key generalizing fields after with
  | nil => exact hchange h hm
  | cons k key ih =>
    rw [Toml.modify] at hm
    split at hm
    · obtain ⟨t, ht, rfl⟩ := Option.map_eq_some_iff.mp hm
      exact h.put (ih empty ht) k
    · rename_i inner hk
      obtain ⟨t, ht, rfl⟩ := Option.map_eq_some_iff.mp hm
      exact h.put (ih (h.get? hk) ht) k
    · rename_i items hk
      split at hm
      · split at hm
        · rename_i inner hlast
          obtain ⟨t, ht, rfl⟩ := Option.map_eq_some_iff.mp hm
          have hitem : ∀ u ∈ items, Distinct u := fun u hu => (h.get? hk).item hu
          have hinner := hitem _ (List.mem_of_getLast? hlast)
          exact h.put (snoc (fun u hu => hitem u (List.dropLast_subset _ hu)) (ih hinner ht)) k
        · cases hm
      · cases hm
    · cases hm

theorem addField (h : Distinct (.table fields)) (hv : Distinct v) {name : String}
    (ha : Toml.addField name v fields = some after) : Distinct (.table after) := by
  unfold Toml.addField at ha
  split at ha
  · cases ha
  · obtain rfl := Option.some.inj ha
    exact h.put hv name

theorem addItem (h : Distinct (.table fields)) {name : String}
    (ha : Toml.addItem name fields = some after) : Distinct (.table after) := by
  unfold Toml.addItem at ha
  split at ha
  · obtain rfl := Option.some.inj ha
    exact h.put (.arr fun v hv => List.mem_singleton.mp hv ▸ empty) name
  · rename_i items hk
    obtain rfl := Option.some.inj ha
    exact h.put (snoc (fun u hu => (h.get? hk).item hu) empty) name
  · cases ha

end Distinct

/-! ## Statements -/

variable {s s' : State}

theorem distinct_of_openTable (h : Distinct (.table s.fields)) {key : Key}
    (ho : s.openTable key = some s') : Distinct (.table s'.fields) := by
  unfold State.openTable at ho
  simp only at ho
  split at ho
  · cases ho
  · obtain ⟨fields, hf, rfl⟩ := Option.map_eq_some_iff.mp ho
    refine h.modify (fun h hc => ?_) hf
    rwa [← Option.some.inj hc]

theorem distinct_of_openItem (h : Distinct (.table s.fields)) {key : Key}
    (ho : s.openItem key = some s') : Distinct (.table s'.fields) := by
  unfold State.openItem at ho
  simp only [Option.bind_eq_bind] at ho
  split at ho
  · cases ho
  · obtain ⟨name, -, ho⟩ := Option.bind_eq_some_iff.mp ho
    obtain ⟨fields, hf, ho⟩ := Option.bind_eq_some_iff.mp ho
    obtain rfl := Option.some.inj ho
    exact h.modify (fun h hc => h.addItem hc) hf

theorem distinct_of_assign (h : Distinct (.table s.fields)) {key : Key} {v : Value}
    (hv : Distinct v) (ha : s.assign key v = some s') : Distinct (.table s'.fields) := by
  unfold State.assign at ha
  simp only [Option.bind_eq_bind] at ha
  split at ha
  · cases ha
  split at ha
  · cases ha
  obtain ⟨name, -, ha⟩ := Option.bind_eq_some_iff.mp ha
  obtain ⟨fields, hf, ha⟩ := Option.bind_eq_some_iff.mp ha
  obtain rfl := Option.some.inj ha
  exact h.modify (fun h hc => h.addField hv hc) hf

theorem distinct_of_inline {t t' : Inline} (h : Distinct (.table t.fields)) {key : Key} {v : Value}
    (hv : Distinct v) (ha : t.assign key v = some t') : Distinct (.table t'.fields) := by
  unfold Inline.assign at ha
  simp only [Option.bind_eq_bind] at ha
  split at ha
  · cases ha
  obtain ⟨name, -, ha⟩ := Option.bind_eq_some_iff.mp ha
  obtain ⟨fields, hf, ha⟩ := Option.bind_eq_some_iff.mp ha
  obtain rfl := Option.some.inj ha
  exact h.modify (fun h hc => h.addField hv hc) hf

/-! ## Values -/

theorem orMalformed_eq_ok {α : Type} {found : Option α} {a : α} (h : orMalformed found = .ok a) :
    found = some a := by
  cases found with
  | none => cases h
  | some b => rw [Except.ok.inj h]

theorem isClosed_basedNumber {base : Nat} {isDigit : Char → Bool} {cs rest : List Char} {v : Value}
    (h : basedNumber? base isDigit cs = some (v, rest)) : State.isClosed v = false := by
  unfold basedNumber? at h
  split at h
  · cases h
  · obtain ⟨rfl, -⟩ := Prod.mk.inj (Option.some.inj h)
    rfl

theorem isClosed_decimal {d : Decimal} {v : Value} (h : d.value = .ok v) :
    State.isClosed v = false := by
  unfold Decimal.value at h
  split at h
  · split at h
    · cases h
    · obtain rfl := Except.ok.inj h
      rfl
  · obtain rfl := Except.ok.inj h
    rfl

theorem isClosed_specialNumber {cs rest : List Char} {v : Value}
    (h : specialNumber? cs = some (v, rest)) : State.isClosed v = false := by
  unfold specialNumber? at h
  simp only at h
  split at h
  · obtain ⟨rfl, -⟩ := Prod.mk.inj (Option.some.inj h)
    rfl
  split at h
  · obtain ⟨rfl, -⟩ := Prod.mk.inj (Option.some.inj h)
    rfl
  · cases h

theorem isClosed_readNumber {cs rest : List Char} {v : Value} (h : readNumber cs = .ok (v, rest)) :
    State.isClosed v = false := by
  unfold readNumber at h
  split at h
  · rename_i found hfound
    obtain rfl := Except.ok.inj h
    unfold prefixedNumber? at hfound
    split at hfound
    · exact isClosed_basedNumber hfound
    · exact isClosed_basedNumber hfound
    · exact isClosed_basedNumber hfound
    · cases hfound
  · split at h
    · obtain ⟨w, hw, heq⟩ := map_eq_ok h
      obtain ⟨rfl, -⟩ := Prod.mk.inj heq
      exact isClosed_decimal hw
    · exact isClosed_specialNumber (orMalformed_eq_ok h)

/-- What is written in one go is no table and no array. -/
theorem isClosed_readPlain {cs rest : List Char} {v : Value} (h : readPlain cs = .ok (v, rest)) :
    State.isClosed v = false := by
  unfold readPlain at h
  split at h
  · obtain ⟨rfl, -⟩ := Prod.mk.inj (Except.ok.inj h)
    rfl
  · cases h
  · split at h
    · obtain ⟨rfl, -⟩ := Prod.mk.inj (Except.ok.inj h)
      rfl
    · exact isClosed_readNumber h

/-- What holds of the three readers of values under some fuel. -/
structure Distinctly (fuel : Nat) : Prop where
  value {depth : Nat} {cs rest : List Char} {v : Value} :
    readValue fuel depth cs = .ok (v, rest) → Distinct v
  items {depth : Nat} {cs rest : List Char} {vs : List Value} :
    readItems fuel depth cs = .ok (vs, rest) → ∀ v ∈ vs, Distinct v
  inline {depth : Nat} {t : Inline} {cs rest : List Char} {fields : Fields} :
    Distinct (.table t.fields) → readInline fuel depth t cs = .ok (fields, rest) →
      Distinct (.table fields)

section

variable {fuel depth : Nat} {cs rest : List Char}

theorem Distinctly.succ_value (h : Distinctly fuel) {v : Value}
    (hr : readValue (fuel + 1) depth cs = .ok (v, rest)) : Distinct v := by
  cases cs with
  | nil => cases hr
  | cons c cs =>
    rw [readValue] at hr
    split at hr
    · obtain ⟨found, -, heq⟩ := Option.map_eq_some_iff.mp (orMalformed_eq_ok hr)
      obtain ⟨rfl, -⟩ := Prod.mk.inj heq
      exact .plain rfl
    split at hr
    · obtain ⟨rfl, -⟩ := Prod.mk.inj (Except.ok.inj hr)
      exact .plain rfl
    split at hr
    · obtain ⟨rfl, -⟩ := Prod.mk.inj (Except.ok.inj hr)
      exact .plain rfl
    split at hr
    · split at hr
      · cases hr
      obtain ⟨filler, -, hr⟩ := bind_eq_ok hr
      split at hr
      · obtain ⟨rfl, -⟩ := Prod.mk.inj (Except.ok.inj hr)
        exact .arr (by simp)
      · obtain ⟨⟨vs, more⟩, hvs, hr⟩ := bind_eq_ok hr
        obtain ⟨rfl, -⟩ := Prod.mk.inj (Except.ok.inj hr)
        exact .arr (h.items hvs)
    split at hr
    · split at hr
      · cases hr
      split at hr
      · obtain ⟨rfl, -⟩ := Prod.mk.inj (Except.ok.inj hr)
        exact .empty
      · obtain ⟨⟨fields, more⟩, hf, hr⟩ := bind_eq_ok hr
        obtain ⟨rfl, -⟩ := Prod.mk.inj (Except.ok.inj hr)
        exact h.inline .empty hf
    · exact .plain (isClosed_readPlain hr)

theorem Distinctly.succ_items (h : Distinctly fuel) {vs : List Value}
    (hr : readItems (fuel + 1) depth cs = .ok (vs, rest)) : ∀ v ∈ vs, Distinct v := by
  rw [readItems] at hr
  obtain ⟨⟨v, more⟩, hv, hr⟩ := bind_eq_ok hr
  obtain ⟨filler, -, hr⟩ := bind_eq_ok hr
  have hone : ∀ u ∈ [v], Distinct u := fun u hu => List.mem_singleton.mp hu ▸ h.value hv
  split at hr
  · obtain ⟨rfl, -⟩ := Prod.mk.inj (Except.ok.inj hr)
    exact hone
  · obtain ⟨filler, -, hr⟩ := bind_eq_ok hr
    split at hr
    · obtain ⟨rfl, -⟩ := Prod.mk.inj (Except.ok.inj hr)
      exact hone
    · obtain ⟨⟨ws, last⟩, hws, hr⟩ := bind_eq_ok hr
      obtain ⟨rfl, -⟩ := Prod.mk.inj (Except.ok.inj hr)
      exact List.forall_mem_cons.mpr ⟨h.value hv, h.items hws⟩
  · cases hr

theorem Distinctly.succ_inline (h : Distinctly fuel) {t : Inline} {fields : Fields}
    (ht : Distinct (.table t.fields))
    (hr : readInline (fuel + 1) depth t cs = .ok (fields, rest)) : Distinct (.table fields) := by
  rw [readInline] at hr
  obtain ⟨⟨key, more⟩, -, hr⟩ := bind_eq_ok hr
  obtain ⟨after, -, hr⟩ := bind_eq_ok hr
  obtain ⟨⟨v, beyond⟩, hv, hr⟩ := bind_eq_ok hr
  obtain ⟨t', ht', hr⟩ := bind_eq_ok hr
  have hnext := distinct_of_inline ht (h.value hv) (orMalformed_eq_ok ht')
  split at hr
  · obtain ⟨rfl, -⟩ := Prod.mk.inj (Except.ok.inj hr)
    exact hnext
  · exact h.inline hnext hr
  · cases hr

end

theorem distinctly (fuel : Nat) : Distinctly fuel := by
  induction fuel with
  | zero =>
    refine ⟨fun h => ?_, fun h => ?_, fun _ h => ?_⟩
    · rw [readValue] at h
      cases h
    · rw [readItems] at h
      cases h
    · rw [readInline] at h
      cases h
  | succ fuel ih => exact ⟨ih.succ_value, ih.succ_items, ih.succ_inline⟩

/-! ## Documents -/

theorem distinct_of_header {fuel : Nat} {s s' : State} (h : Distinct (.table s.fields))
    {cs rest : List Char} (hr : readHeader fuel s cs = some (s', rest)) :
    Distinct (.table s'.fields) := by
  unfold readHeader at hr
  simp only [Option.bind_eq_bind] at hr
  split at hr
  · obtain ⟨⟨key, more⟩, -, hr⟩ := Option.bind_eq_some_iff.mp hr
    obtain ⟨after, -, hr⟩ := Option.bind_eq_some_iff.mp hr
    obtain ⟨opened, ho, hr⟩ := Option.bind_eq_some_iff.mp hr
    obtain ⟨rfl, -⟩ := Prod.mk.inj (Option.some.inj hr)
    exact distinct_of_openItem h ho
  · obtain ⟨⟨key, more⟩, -, hr⟩ := Option.bind_eq_some_iff.mp hr
    obtain ⟨after, -, hr⟩ := Option.bind_eq_some_iff.mp hr
    obtain ⟨opened, ho, hr⟩ := Option.bind_eq_some_iff.mp hr
    obtain ⟨rfl, -⟩ := Prod.mk.inj (Option.some.inj hr)
    exact distinct_of_openTable h ho

theorem distinct_of_assignment {fuel : Nat} {s s' : State} (h : Distinct (.table s.fields))
    {cs rest : List Char} (hr : readAssignment fuel s cs = .ok (s', rest)) :
    Distinct (.table s'.fields) := by
  unfold readAssignment at hr
  obtain ⟨⟨key, more⟩, -, hr⟩ := bind_eq_ok hr
  obtain ⟨after, -, hr⟩ := bind_eq_ok hr
  obtain ⟨⟨v, beyond⟩, hv, hr⟩ := bind_eq_ok hr
  obtain ⟨assigned, ha, hr⟩ := bind_eq_ok hr
  obtain ⟨rfl, -⟩ := Prod.mk.inj (Except.ok.inj hr)
  exact distinct_of_assign h ((distinctly fuel).value hv) (orMalformed_eq_ok ha)

theorem distinct_of_statements {fuel : Nat} {s s' : State} (h : Distinct (.table s.fields))
    {cs : List Char} (hr : readStatements fuel s cs = .ok s') : Distinct (.table s'.fields) := by
  induction fuel generalizing s cs with
  | zero => cases hr
  | succ fuel ih =>
    rw [readStatements] at hr
    split at hr
    · rwa [← Except.ok.inj hr]
    · exact ih h hr
    · obtain ⟨more, -, hr⟩ := bind_eq_ok hr
      exact ih h hr
    · obtain ⟨⟨opened, more⟩, ho, hr⟩ := bind_eq_ok hr
      obtain ⟨after, -, hr⟩ := bind_eq_ok hr
      exact ih (distinct_of_header h (orMalformed_eq_ok ho)) hr
    · obtain ⟨⟨assigned, more⟩, ha, hr⟩ := bind_eq_ok hr
      obtain ⟨after, -, hr⟩ := bind_eq_ok hr
      exact ih (distinct_of_assignment h ha) hr

/-- In a document that is read, and in all tables in it, a key has one value. -/
theorem distinct_of_read {text : List Char} {fields : Fields} (h : read text = .ok fields) :
    Distinct (.table fields) := by
  obtain ⟨s, hs, rfl⟩ := map_eq_ok h
  exact distinct_of_statements .empty hs

/-! ## As data -/

theorem keys_fieldsToJson (fields : Fields) :
    Table.keys (fieldsToJson fields) = Table.keys fields := by
  induction fields with
  | nil => rfl
  | cons f fields ih =>
    obtain ⟨k, v⟩ := f
    rw [fieldsToJson, Table.keys, List.map_cons, ← Table.keys, ih]
    rfl

theorem get?_fieldsToJson (fields : Fields) (name : String) :
    Table.get? (fieldsToJson fields) name = (Table.get? fields name).map Value.toJson := by
  induction fields with
  | nil => rfl
  | cons f fields ih =>
    obtain ⟨k, v⟩ := f
    rw [fieldsToJson, Table.get?, Table.get?]
    split
    · rfl
    · exact ih

/-- No value of a document is null. -/
theorem isNull_toJson (v : Value) : v.toJson.isNull = false := by
  cases v <;> rfl

end LintServer.Toml
