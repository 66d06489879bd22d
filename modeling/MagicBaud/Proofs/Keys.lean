import MagicBaud.Toml.Document

namespace MagicBaud.Toml
namespace Entries
variable {key : String} {v : Value} {es es' : Entries}

def keys (es : Entries) : List String := es.map Prod.fst

/-- No key has two entries. -/
def Distinct (es : Entries) : Prop := es.keys.Nodup

theorem Distinct.nil : Distinct [] := List.nodup_nil

theorem get?_eq_none_iff : get? key es = none ↔ key ∉ es.keys := by
  induction es with
  | nil => simp [get?, keys]
  | cons e es ih =>
    obtain ⟨k, w⟩ := e
    by_cases hk : k = key
    · simp [get?, keys, hk]
    · simp only [get?, hk, if_false, ih, keys, List.map_cons, List.mem_cons, not_or]
      exact ⟨fun h => ⟨Ne.symm hk, h⟩, fun h => h.2⟩

theorem get?_eq_some_iff (hd : es.Distinct) : get? key es = some v ↔ (key, v) ∈ es := by
  induction es with
  | nil => simp [get?]
  | cons e es ih =>
    obtain ⟨k, w⟩ := e
    obtain ⟨hn, hd'⟩ := List.nodup_cons.mp hd
    by_cases hk : k = key
    · subst hk
      have hm : (k, v) ∉ es := fun hm => hn (List.mem_map.mpr ⟨(k, v), hm, rfl⟩)
      simp [get?, hm, eq_comm]
    · simp only [get?, hk, if_false, ih hd', List.mem_cons, Prod.mk.injEq, Ne.symm hk, false_and,
        false_or]

/-- With distinct keys the order of the entries does not matter to a look-up. -/
theorem get?_perm (h : List.Perm es es') (hd : es.Distinct) (key : String) :
    get? key es = get? key es' := by
  have hd' : es'.Distinct := (h.map Prod.fst).nodup_iff.mp hd
  apply Option.ext
  intro v
  rw [get?_eq_some_iff hd, get?_eq_some_iff hd', h.mem_iff]

theorem get?_append_self (hk : key ∉ es.keys) (v : Value) :
    get? key (append key v es) = some v := by
  induction es with
  | nil => simp [append, get?]
  | cons e es ih =>
    obtain ⟨hne, hn⟩ := not_or.mp (mt List.mem_cons.mpr hk)
    simp only [append, List.cons_append, get?, if_neg (Ne.symm hne)]
    exact ih hn

theorem get?_append_of_ne {k : String} (hk : k ≠ key) (v : Value) (es : Entries) :
    get? key (append k v es) = get? key es := by
  induction es with
  | nil => simp [append, get?, hk]
  | cons e es ih =>
    simp only [append, List.cons_append, get?] at ih ⊢
    rw [ih]

theorem keys_replace (key : String) (v : Value) (es : Entries) :
    (replace key v es).keys = es.keys := by
  induction es with
  | nil => rfl
  | cons e es ih =>
    simp only [replace]
    split
    · rfl
    · exact congrArg (e.1 :: ·) ih

theorem keys_remove (key : String) (es : Entries) : (remove key es).keys = es.keys.erase key := by
  induction es with
  | nil => rfl
  | cons e es ih =>
    obtain ⟨k, w⟩ := e
    simp only [remove, keys, List.map_cons]
    by_cases hk : k = key
    · rw [if_pos hk, hk, List.erase_cons_head]
    · rw [if_neg hk, List.erase_cons_tail (by simpa using hk)]
      exact congrArg (k :: ·) ih

theorem keys_append (key : String) (v : Value) (es : Entries) :
    (append key v es).keys = es.keys ++ [key] := by
  simp [append, keys]

theorem Distinct.replace (h : es.Distinct) (key : String) (v : Value) :
    (Entries.replace key v es).Distinct := by
  rw [Distinct, keys_replace]
  exact h

theorem Distinct.append (h : es.Distinct) (hk : key ∉ es.keys) (v : Value) :
    (Entries.append key v es).Distinct := by
  rw [Distinct, keys_append, List.nodup_append]
  refine ⟨h, List.pairwise_singleton _ key, ?_⟩
  intro k hm k' hm' he
  rw [List.mem_singleton.mp hm'] at he
  exact hk (he ▸ hm)

/-- A key that is moved behind the others is there once as before. -/
theorem Distinct.append_remove (h : es.Distinct) (key : String) (v : Value) :
    (Entries.append key v (remove key es)).Distinct := by
  have hr : (remove key es).Distinct := by
    rw [Distinct, keys_remove]
    exact h.erase key
  refine hr.append ?_ v
  rw [keys_remove]
  exact fun hm => ((List.Nodup.mem_erase_iff h).mp hm).1 rfl

theorem Distinct.put {ps : List String} (h : es.Distinct) (hp : put key v ps es = some es') :
    es'.Distinct := by
  cases ps with
  | nil =>
    unfold Entries.put at hp
    split at hp
    · cases hp
    · rename_i hk
      obtain rfl := Option.some.inj hp
      exact h.append (get?_eq_none_iff.mp (by simpa using hk)) v
  | cons p ps =>
    unfold Entries.put at hp
    split at hp
    · rename_i hk
      obtain ⟨sub, _, rfl⟩ := Option.map_eq_some_iff.mp hp
      exact h.append (get?_eq_none_iff.mp hk) _
    · obtain ⟨sub, _, rfl⟩ := Option.map_eq_some_iff.mp hp
      exact h.replace p _
    · split at hp
      · cases hp
      · obtain ⟨sub, _, rfl⟩ := Option.map_eq_some_iff.mp hp
        exact h.replace p _
    · split at hp
      · cases hp
      · obtain ⟨sub, _, rfl⟩ := Option.map_eq_some_iff.mp hp
        exact h.replace p _
    · cases hp

theorem Distinct.putAll {pairs : List (KeyPath × Value)} (h : es.Distinct)
    (hp : putAll pairs es = some es') : es'.Distinct := by
  induction pairs generalizing es with
  | nil =>
    cases hp
    exact h
  | cons pair pairs ih =>
    obtain ⟨es₁, h₁, h₂⟩ := Option.bind_eq_some_iff.mp hp
    exact ih (h.put h₁) h₂

/-- What is changed further down leaves the keys as they are, or adds a new one. -/
theorem Distinct.descend {change : Entries → Option Entries} {ps : List String}
    (hc : ∀ es es', Distinct es → change es = some es' → Distinct es') (h : es.Distinct)
    (hd : descend change ps es = some es') : es'.Distinct := by
  cases ps with
  | nil => exact hc es es' h hd
  | cons p ps =>
    unfold Entries.descend at hd
    split at hd
    · rename_i hk
      obtain ⟨sub, _, rfl⟩ := Option.map_eq_some_iff.mp hd
      exact h.append (get?_eq_none_iff.mp hk) _
    · cases hd
    · obtain ⟨sub, _, rfl⟩ := Option.map_eq_some_iff.mp hd
      exact h.replace p _
    · obtain ⟨sub, _, rfl⟩ := Option.map_eq_some_iff.mp hd
      exact h.replace p _
    · cases hd

theorem Distinct.openTable {path : KeyPath} {pairs : List (KeyPath × Value)} (h : es.Distinct)
    (ho : openTable path pairs es = some es') : es'.Distinct := by
  refine h.descend ?_ ho
  intro parent parent' hp hc
  split at hc
  · rename_i hk
    obtain ⟨t, _, rfl⟩ := Option.map_eq_some_iff.mp hc
    exact hp.append (get?_eq_none_iff.mp hk) _
  · obtain ⟨t, _, rfl⟩ := Option.map_eq_some_iff.mp hc
    exact hp.append_remove path.key _
  · cases hc

theorem Distinct.addTable {path : KeyPath} {pairs : List (KeyPath × Value)} (h : es.Distinct)
    (ho : addTable path pairs es = some es') : es'.Distinct := by
  refine h.descend ?_ ho
  intro parent parent' hp hc
  split at hc
  · rename_i hk
    obtain ⟨t, _, rfl⟩ := Option.map_eq_some_iff.mp hc
    exact hp.append (get?_eq_none_iff.mp hk) _
  · obtain ⟨t, _, rfl⟩ := Option.map_eq_some_iff.mp hc
    exact hp.replace path.key _
  · cases hc

end Entries

/-- Induction on the sections: each header opens a table among the ones that are there. -/
theorem addSections_distinct {es es' : Entries} {is : List Item} (h : es.Distinct)
    (ha : addSections es is = some es') : es'.Distinct := by
  fun_induction addSections es is with
  | case1 es =>
    cases ha
    exact h
  | case2 => cases ha
  | case3 es path is _ ih =>
    obtain ⟨es₁, h₁, h₂⟩ := Option.bind_eq_some_iff.mp ha
    exact ih es₁ (h.openTable h₁) h₂
  | case4 es path is _ ih =>
    obtain ⟨es₁, h₁, h₂⟩ := Option.bind_eq_some_iff.mp ha
    exact ih es₁ (h.addTable h₁) h₂

/-- No document gives a key twice. -/
theorem document_distinct {s : String} {es : Entries} (h : document? s = some es) :
    es.Distinct := by
  obtain ⟨is, _, ha⟩ := Option.bind_eq_some_iff.mp h
  obtain ⟨top, ht, hs⟩ := Option.bind_eq_some_iff.mp ha
  exact addSections_distinct (Entries.Distinct.nil.putAll ht) hs

end MagicBaud.Toml
