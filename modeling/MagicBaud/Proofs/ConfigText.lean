import Mathlib.Data.List.Forall2
import MagicBaud.Proofs.Fitting
import MagicBaud.Proofs.Lines

namespace MagicBaud.Config
open Toml

/-- One of the values that a layer sets. -/
inductive Assignment where
  | port (path : String)
  | rate (r : Rate)
  | neutral (r : Rate)
  | settle (t : Millis)

def Assignment.key : Assignment → String
  | .port _ => "port"
  | .rate _ => "baud"
  | .neutral _ => "neutral_baud"
  | .settle _ => "settle_ms"

def assignments (l : Layer) : List Assignment :=
  l.port.toList.map .port ++ l.rate.toList.map .rate ++ l.neutral.toList.map .neutral ++
    l.settle.toList.map .settle

/-- The values that an assignment may be written with. A rate may be given by its number or by any
text that is read as it. -/
inductive Assignment.Valued : Assignment → Value → Prop
  | port {path : String} {v : Value} (h : DenotesText v path) : Valued (.port path) v
  | rate {r : Rate} {v : Value} (h : DenotesRate v r) : Valued (.rate r) v
  | neutral {r : Rate} {v : Value} (h : DenotesRate v r) : Valued (.neutral r) v
  | settle {t : Millis} {v : Value} (h : DenotesTime v t) : Valued (.settle t) v

/-- The entry makes the assignment. -/
structure Says (a : Assignment) (e : String × Value) : Prop where
  key : e.1 = a.key
  value : a.Valued e.2

/-- The text writes the layer down, in any order and with any lines between that say nothing. -/
def Writes (l : Layer) (text : String) : Prop :=
  ∃ as es, as.Perm (assignments l) ∧ List.Forall₂ Says as es ∧ Lines es text.toList

/-- The settle times that an integer of a document can hold. -/
def Expressible (l : Layer) : Prop := ∀ t, l.settle = some t → t.count < 9223372036854775808

theorem exists_of_mem_left {α β : Type} {R : α → β → Prop} {as : List α} {bs : List β}
    (h : List.Forall₂ R as bs) {a : α} (ha : a ∈ as) : ∃ b ∈ bs, R a b := by
  induction h with
  | nil => cases ha
  | @cons a' b as bs hr _ ih =>
    rcases List.mem_cons.mp ha with rfl | ha
    · exact ⟨b, List.mem_cons_self, hr⟩
    · obtain ⟨c, hc, hrc⟩ := ih ha
      exact ⟨c, List.mem_cons_of_mem b hc, hrc⟩

theorem exists_of_mem_right {α β : Type} {R : α → β → Prop} {as : List α} {bs : List β}
    (h : List.Forall₂ R as bs) {b : β} (hb : b ∈ bs) : ∃ a ∈ as, R a b :=
  exists_of_mem_left h.flip hb

variable {l : Layer} {as : List Assignment} {es : Entries}

theorem Says.fits {a : Assignment} {e : String × Value} (h : Says a e) : Fits e := by
  obtain ⟨key, v⟩ := e
  obtain ⟨hk, hv⟩ := h
  cases hv with
  | port h =>
    cases h with
    | text => exact .port hk
  | rate h => exact h.fits (.inl hk)
  | neutral h => exact h.fits (.inr hk)
  | settle h =>
    cases h with
    | number h => exact .settle hk (h ▸ Int.natCast_nonneg _)

theorem keys_of_says (h : List.Forall₂ Says as es) : es.keys = as.map Assignment.key := by
  induction h with
  | nil => rfl
  | cons hs _ ih =>
    rw [Entries.keys, List.map_cons, hs.key, List.map_cons]
    exact congrArg _ ih

theorem assignments_nodup (l : Layer) : ((assignments l).map Assignment.key).Nodup := by
  obtain ⟨port, rate, neutral, settle⟩ := l
  cases port <;> cases rate <;> cases neutral <;> cases settle <;>
    simp [assignments, Assignment.key]

theorem distinct_of_says (hp : as.Perm (assignments l)) (h : List.Forall₂ Says as es) :
    es.Distinct := by
  rw [Entries.Distinct, keys_of_says h]
  exact (hp.map Assignment.key).nodup_iff.mpr (assignments_nodup l)

/-- A document says under a key what was assigned, and nothing if nothing was. -/
theorem rel_of_says {α : Type} {D : Value → α → Prop} (assign : α → Assignment) {key : String}
    {x : Option α} (hd : es.Distinct) (h : List.Forall₂ Says as es)
    (hx : ∀ a, assign a ∈ as ↔ x = some a) (hkey : ∀ a, (assign a).key = key)
    (hvalue : ∀ b v, key = b.key → b.Valued v → ∃ a, b = assign a ∧ D v a) :
    Option.Rel D (es.get? key) x := by
  cases hg : es.get? key with
  | none =>
    cases x with
    | none => exact .none
    | some a =>
      obtain ⟨e, he, hs⟩ := exists_of_mem_left h ((hx a).mpr rfl)
      have hk : key ∈ es.keys := List.mem_map.mpr ⟨e, he, hs.key.trans (hkey a)⟩
      exact absurd hk (Entries.get?_eq_none_iff.mp hg)
  | some v =>
    obtain ⟨b, hb, hs⟩ := exists_of_mem_right h ((Entries.get?_eq_some_iff hd).mp hg)
    obtain ⟨a, rfl, hv⟩ := hvalue b v hs.key hs.value
    rw [(hx a).mp hb]
    exact .some hv

/-- What the lines say is what the layer sets. -/
theorem holds_of_says (hp : as.Perm (assignments l)) (h : List.Forall₂ Says as es) :
    Holds l es := by
  have hd := distinct_of_says hp h
  refine ⟨?_, ?_, ?_, ?_⟩
  · refine rel_of_says .port hd h (fun path => ?_) (fun _ => rfl) ?_
    · simp [hp.mem_iff, assignments]
    · intro b v hk hv
      cases hv with
      | port h => exact ⟨_, rfl, h⟩
      | rate | neutral | settle => simp [Assignment.key] at hk
  · refine rel_of_says .rate hd h (fun r => ?_) (fun _ => rfl) ?_
    · simp [hp.mem_iff, assignments]
    · intro b v hk hv
      cases hv with
      | rate h => exact ⟨_, rfl, h⟩
      | port | neutral | settle => simp [Assignment.key] at hk
  · refine rel_of_says .neutral hd h (fun r => ?_) (fun _ => rfl) ?_
    · simp [hp.mem_iff, assignments]
    · intro b v hk hv
      cases hv with
      | neutral h => exact ⟨_, rfl, h⟩
      | port | rate | settle => simp [Assignment.key] at hk
  · refine rel_of_says .settle hd h (fun t => ?_) (fun _ => rfl) ?_
    · simp [hp.mem_iff, assignments]
    · intro b v hk hv
      cases hv with
      | settle h => exact ⟨_, rfl, h⟩
      | port | rate | neutral => simp [Assignment.key] at hk

theorem document?_of_writes {text : String} (h : Writes l text) :
    ∃ es, document? text = some es ∧ es.Distinct ∧ (∀ e ∈ es, Fits e) ∧ Holds l es := by
  obtain ⟨as, es, hp, hs, hl⟩ := h
  have hd := distinct_of_says hp hs
  refine ⟨es, hl.document? hd, hd, ?_, holds_of_says hp hs⟩
  intro e he
  obtain ⟨a, _, ha⟩ := exists_of_mem_right hs he
  exact ha.fits

/-- Text is loaded as the layer that was written. -/
theorem load_of_writes {text : String} (h : Writes l text) {files : Files} {path : String}
    (hf : files path = .ok text) : load files path = .ok l := by
  obtain ⟨es, ht, hd, hfits, hh⟩ := document?_of_writes h
  obtain ⟨l', hl⟩ := ofEntries_ok_iff.mpr hfits
  obtain rfl : l' = l := (ofEntries_holds hd hl).unique hh fun _ => rfl
  rw [load_document hf ht, hl]
  rfl

/-- None of the keys needs quotation marks. -/
theorem bareKey_of_mem {key : String} (h : key ∈ keys) : BareKey key := by
  have hb : keys.all (fun k => !k.toList.isEmpty && k.toList.all isBare) = true := by decide
  obtain ⟨hn, hall⟩ := Bool.and_eq_true_iff.mp (List.all_eq_true.mp hb key h)
  exact ⟨by simpa using hn, List.all_eq_true.mp hall⟩

theorem Assignment.key_mem (a : Assignment) : a.key ∈ keys := by
  cases a <;> simp [key, keys]

theorem DenotesRate.exists_integer (r : Rate) : ∃ n : Integer, DenotesRate (.integer n) r := by
  have := r.fits
  exact ⟨⟨r.baud, by omega, by omega⟩, .number rfl⟩

theorem Assignment.exists_valued {a : Assignment} (h : a ∈ assignments l) (hl : Expressible l) :
    ∃ v, a.Valued v ∧ ∃ w, v.Written w := by
  cases a with
  | port path =>
    obtain ⟨w, hw⟩ := exists_spells path.toList
    exact ⟨.text path, .port (.text path), _, .text hw⟩
  | rate r =>
    obtain ⟨n, hn⟩ := DenotesRate.exists_integer r
    exact ⟨.integer n, .rate hn, _, .integer⟩
  | neutral r =>
    obtain ⟨n, hn⟩ := DenotesRate.exists_integer r
    exact ⟨.integer n, .neutral hn, _, .integer⟩
  | settle t =>
    have ht : t.count < 9223372036854775808 := hl t (by simpa [assignments] using h)
    exact ⟨.integer ⟨t.count, by omega, by omega⟩, .settle (.number rfl), _, .integer⟩

/-- Induction on the assignments; each gets a line of its own. -/
theorem exists_lines (h : ∀ a ∈ as, ∃ v, a.Valued v ∧ ∃ w, v.Written w) :
    ∃ es cs, List.Forall₂ Says as es ∧ Lines es cs := by
  induction as with
  | nil => exact ⟨[], [], .nil, .done⟩
  | cons a as ih =>
    obtain ⟨v, hv, w, hw⟩ := h a List.mem_cons_self
    obtain ⟨es, cs, hs, hl⟩ := ih fun b hb => h b (List.mem_cons_of_mem a hb)
    exact ⟨(a.key, v) :: es, _, .cons ⟨rfl, hv⟩ hs,
      .pair (bareKey_of_mem a.key_mem) hw .feed hl⟩

theorem exists_writes (hl : Expressible l) : ∃ text, Writes l text := by
  obtain ⟨es, cs, hs, hc⟩ := exists_lines fun a ha => a.exists_valued ha hl
  exact ⟨String.ofList cs, assignments l, es, .refl _, hs, String.toList_ofList ▸ hc⟩

theorem Holds.expressible (h : Holds l es) : Expressible l := by
  intro t ht
  have hs := h.settle
  rw [ht] at hs
  cases hg : es.get? "settle_ms" with
  | none =>
    rw [hg] at hs
    cases hs
  | some v =>
    rw [hg] at hs
    cases hs with
    | some hd =>
      cases hd with
      | @number n t hn =>
        have := n.high
        omega

theorem expressible_of_load {files : Files} {path : String} (h : load files path = .ok l) :
    Expressible l := by
  obtain ⟨text, es, _, ht, ho⟩ := exists_document_of_load h
  exact (ofEntries_holds (document_distinct ht) ho).expressible

/-- Every text that writes a layer down is loaded as that layer, so that no text is written for two.
The layers that can be written down are just those whose settle time an integer holds, and no others
are ever loaded. -/
theorem load_written :
    (∀ l text, Writes l text → ∀ (files : Files) (path : String), files path = .ok text →
      load files path = .ok l) ∧
    (∀ l l' text, Writes l text → Writes l' text → l = l') ∧
    (∀ l, (∃ text, Writes l text) ↔ Expressible l) ∧
    ∀ (files : Files) (path : String) l, load files path = .ok l → Expressible l := by
  refine ⟨fun l text h files path hf => load_of_writes h hf, ?_, ?_, ?_⟩
  · intro l l' text h h'
    have hl : load (fun _ => .ok text) "" = .ok l := load_of_writes h rfl
    have hl' : load (fun _ => .ok text) "" = .ok l' := load_of_writes h' rfl
    exact Except.ok.inj (hl.symm.trans hl')
  · refine fun l => ⟨?_, exists_writes⟩
    rintro ⟨text, h⟩
    obtain ⟨es, _, _, _, hh⟩ := document?_of_writes h
    exact hh.expressible
  · exact fun files path l h => expressible_of_load h

/-- Two values, one by a name and one with an escape, below a comment and around a blank line. -/
theorem load_written_commented :
    let l : Layer := { port := some "/é", rate := some ⟨28800, by decide⟩ }
    let text := "# magic\r\nbaud = \"Listen\"\n \t\nport = \"/\\u00E9\""
    Writes l text ∧ Expressible l ∧
      (load (fun _ => .ok text) "switch.toml").toOption = some l ∧
      ∀ l', Writes l' text → l' = l := by
  intro l text
  have plain : ∀ c, 0x20 ≤ c.toNat ∧ c.toNat < 0x7F ∧ c ≠ '"' ∧ c ≠ '\\' → Spelled c [c] :=
    fun c h => .plain h.1 h.2.1 h.2.2.1 h.2.2.2
  have hname : Spells "Listen".toList ['L', 'i', 's', 't', 'e', 'n'] :=
    .cons (plain 'L' (by decide)) <| .cons (plain 'i' (by decide)) <|
      .cons (plain 's' (by decide)) <| .cons (plain 't' (by decide)) <|
      .cons (plain 'e' (by decide)) <| .cons (plain 'n' (by decide)) .nil
  have hdigits : Text.Hexadecimal.Numeral ['0', '0', 'E', '9'] 'é'.toNat :=
    .snoc (d := 9) (.snoc (d := 14) (.snoc (d := 0) (.snoc (d := 0) .nil (by decide) (.inl rfl))
      (by decide) (.inl rfl)) (by decide) (.inr rfl)) (by decide) (.inl rfl)
  have hpath : Spells "/é".toList ['/', '\\', 'u', '0', '0', 'E', '9'] :=
    .cons (plain '/' (by decide)) <| .cons (.short hdigits rfl) .nil
  have hcomment : Filler ([] ++ ['#', ' ', 'm', 'a', 'g', 'i', 'c']) :=
    .comment (by simp) (by simp [IsCommentChar])
  have hblank : Filler [' ', '\t'] := .blank (by simp [IsBlankChar])
  have hbaud : BareKey "baud" := bareKey_of_mem (by decide)
  have hport : BareKey "port" := bareKey_of_mem (by decide)
  have hlines : Lines [("baud", .text "Listen"), ("port", .text "/é")] text.toList :=
    Eq.mp (congrArg (Lines _) (by decide)) <|
      Lines.filler hcomment .returned <| .pair hbaud (.text hname) .feed <|
      .filler hblank .feed <| .pair hport (.text hpath) .finish .done
  have hwrites : Writes l text := by
    refine ⟨[.rate ⟨28800, by decide⟩, .port "/é"], _, .swap _ _ _, ?_, hlines⟩
    exact .cons ⟨rfl, .rate (.name rfl)⟩ (.cons ⟨rfl, .port (.text "/é")⟩ .nil)
  refine ⟨hwrites, (load_written.2.2.1 l).mp ⟨text, hwrites⟩, ?_, ?_⟩
  · rw [load_written.1 l text hwrites (fun _ => .ok text) "switch.toml" rfl]
    rfl
  · exact fun l' h => load_written.2.1 l' l text h hwrites

end MagicBaud.Config
