import Mathlib.Logic.ExistsUnique
import MagicBaud.Config.Load
import MagicBaud.Proofs.Keys
import MagicBaud.Proofs.Naming

namespace MagicBaud

/-- The text of a number is the usual one, whatever base it was written in. -/
theorem Toml.Integer.text_eq_toString (n : Integer) : n.text = toString n.val := by
  rw [text]
  cases n.val with
  | ofNat m =>
    have h : ¬ Int.ofNat m < 0 := Int.not_lt.mpr (Int.natCast_nonneg m)
    rw [if_neg h]
    rfl
  | negSucc m =>
    rw [if_pos (Int.negSucc_lt_zero m)]
    apply String.toList_inj.mp
    simp [toString, Int.repr, Text.Decimal.write, Nat.repr]

namespace Config
open Toml

/-- The keys whose values are rates. -/
def IsRateKey (key : String) : Prop := key = "baud" ∨ key = "neutral_baud"

/-- The rate that a value stands for: a number of just this size, or a text that is read so. -/
inductive DenotesRate : Value → Rate → Prop
  | number {n : Integer} {r : Rate} (h : n.val = r.baud) : DenotesRate (.integer n) r
  | name {s : String} {r : Rate} (h : Rate.parse s = .ok r) : DenotesRate (.text s) r

inductive DenotesText : Value → String → Prop
  | text (s : String) : DenotesText (.text s) s

inductive DenotesTime : Value → Millis → Prop
  | number {n : Integer} {t : Millis} (h : n.val = t.count) : DenotesTime (.integer n) t

/-- The entries that set something. -/
inductive Fits : String × Value → Prop
  | port {key s : String} (hk : key = "port") : Fits (key, .text s)
  | settle {key : String} {n : Integer} (hk : key = "settle_ms") (low : 0 ≤ n.val) :
      Fits (key, .integer n)
  | number {key : String} {n : Integer} (hk : IsRateKey key) (low : 0 ≤ n.val)
      (high : n.val < 4294967296) : Fits (key, .integer n)
  | name {key s : String} {r : Rate} (hk : IsRateKey key) (h : Rate.parse s = .ok r) :
      Fits (key, .text s)

/-- What is wrong with each of the other entries. -/
inductive Misfits : String × Value → Misfit → Prop
  | unknownKey {key : String} {v : Value}
      (hk : key ∉ ["port", "baud", "neutral_baud", "settle_ms"]) :
      Misfits (key, v) (.unknownKey key)
  | port {key : String} {v : Value} (hk : key = "port") (hv : ∀ s, v ≠ .text s) :
      Misfits (key, v) (.wrongType v "a string")
  | settle {key : String} {v : Value} (hk : key = "settle_ms") (hv : ∀ n, v ≠ .integer n) :
      Misfits (key, v) (.wrongType v "u64")
  | negative {key : String} {n : Integer} (hk : key = "settle_ms") (hn : n.val < 0) :
      Misfits (key, .integer n) (.negative n)
  | number {key : String} {n : Integer} (hk : IsRateKey key)
      (hn : n.val < 0 ∨ 4294967296 ≤ n.val) : Misfits (key, .integer n) .noRate
  | name {key s : String} {e : UnknownRate} (hk : IsRateKey key) (h : Rate.parse s = .error e) :
      Misfits (key, .text s) (.unknownRate e)
  | other {key : String} {v : Value} (hk : IsRateKey key) (hn : ∀ n, v ≠ .integer n)
      (hs : ∀ s, v ≠ .text s) : Misfits (key, v) .noRate

/-- What a value is called that is of the wrong type. -/
inductive Called : Value → String → Prop
  | text (s : String) : Called (.text s) ("string " ++ Text.quoted s)
  | integer (n : Integer) : Called (.integer n) ("integer `" ++ toString n.val ++ "`")
  | real (x : Binary64) : Called (.real x) ("floating point `" ++ x.text ++ "`")
  | true : Called (.boolean .true) "boolean `true`"
  | false : Called (.boolean .false) "boolean `false`"
  | moment (m : Moment) : Called (.moment m) "map"
  | table (origin : Origin) (entries : Entries) : Called (.table origin entries) "map"
  | array (items : List Value) : Called (.array items) "sequence"
  | tables (elements : List Entries) : Called (.tables elements) "sequence"

/-- What the user is told of an entry that does not fit. -/
inductive Blamed : String × Value → String → Prop
  | unknownKey {key : String} {v : Value}
      (hk : key ∉ ["port", "baud", "neutral_baud", "settle_ms"]) :
      Blamed (key, v) ("unknown field `" ++ key ++
        "`, expected one of `port`, `baud`, `neutral_baud`, `settle_ms`")
  | port {key name : String} {v : Value} (hk : key = "port") (hv : ∀ s, v ≠ .text s)
      (hn : Called v name) : Blamed (key, v) ("invalid type: " ++ name ++ ", expected a string")
  | settle {key name : String} {v : Value} (hk : key = "settle_ms") (hv : ∀ n, v ≠ .integer n)
      (hn : Called v name) : Blamed (key, v) ("invalid type: " ++ name ++ ", expected u64")
  | negative {key : String} {n : Integer} (hk : key = "settle_ms") (hn : n.val < 0) :
      Blamed (key, .integer n) ("invalid value: integer `" ++ toString n.val ++ "`, expected u64")
  | number {key : String} {n : Integer} (hk : IsRateKey key)
      (hn : n.val < 0 ∨ 4294967296 ≤ n.val) :
      Blamed (key, .integer n) "data did not match any variant of untagged enum RawBaud"
  | name {key s t : String} (hk : IsRateKey key) (hs : ∀ r, Rate.parse s ≠ .ok r)
      (ht : Text.Trimmed s t) :
      Blamed (key, .text s)
        ("invalid baud rate '" ++ t ++ "': expected an integer or a preset name")
  | other {key : String} {v : Value} (hk : IsRateKey key) (hn : ∀ n, v ≠ .integer n)
      (hs : ∀ s, v ≠ .text s) :
      Blamed (key, v) "data did not match any variant of untagged enum RawBaud"

/-- The layer sets just what the document has a key for, to what its value denotes. -/
structure Holds (l : Layer) (es : Entries) : Prop where
  port : Option.Rel DenotesText (es.get? "port") l.port
  rate : Option.Rel DenotesRate (es.get? "baud") l.rate
  neutral : Option.Rel DenotesRate (es.get? "neutral_baud") l.neutral
  settle : Option.Rel DenotesTime (es.get? "settle_ms") l.settle

/-- The check passes with something good, or fails and says what is bad. -/
inductive Checked {α : Type} (good : α → Prop) (bad : Misfit → Prop) : Except Misfit α → Prop
  | passed {a : α} (h : good a) : Checked good bad (.ok a)
  | failed {m : Misfit} (h : bad m) : Checked good bad (.error m)

theorem Checked.map {α β : Type} {good : α → Prop} {good' : β → Prop} {bad bad' : Misfit → Prop}
    {x : Except Misfit α} {f : α → β} (h : Checked good bad x) (hg : ∀ a, good a → good' (f a))
    (hb : ∀ m, bad m → bad' m) : Checked good' bad' (x.map f) := by
  cases h with
  | passed h => exact .passed (hg _ h)
  | failed h => exact .failed (hb _ h)

theorem rateOf_checked (v : Value) :
    Checked (DenotesRate v) (fun m => ∀ key, IsRateKey key → Misfits (key, v) m) (rateOf v) := by
  cases v with
  | text s =>
    simp only [rateOf]
    cases h : Rate.parse s with
    | ok r => exact .passed (.name h)
    | error e => exact .failed fun _ hk => .name hk h
  | integer n =>
    simp only [rateOf]
    by_cases low : 0 ≤ n.val
    · rw [if_pos low]
      by_cases high : n.val < 4294967296
      · have hf : n.val.toNat < 4294967296 := by omega
        rw [Rate.ofNat?, dif_pos hf]
        exact .passed (.number (Int.toNat_of_nonneg low).symm)
      · have hf : ¬ n.val.toNat < 4294967296 := by omega
        rw [Rate.ofNat?, dif_neg hf]
        exact .failed fun _ hk => .number hk (.inr (Int.not_lt.mp high))
    · rw [if_neg low]
      exact .failed fun _ hk => .number hk (.inl (Int.not_le.mp low))
  | real | boolean | moment | array | table | tables =>
    exact .failed fun _ hk => .other hk (fun _ h => nomatch h) (fun _ h => nomatch h)

theorem portOf_checked (v : Value) :
    Checked (DenotesText v) (fun m => Misfits ("port", v) m) (portOf v) := by
  cases v with
  | text s => exact .passed (.text s)
  | integer | real | boolean | moment | array | table | tables =>
    exact .failed (.port rfl fun _ h => nomatch h)

theorem settleOf_checked (v : Value) :
    Checked (DenotesTime v) (fun m => Misfits ("settle_ms", v) m) (settleOf v) := by
  cases v with
  | integer n =>
    simp only [settleOf]
    by_cases low : 0 ≤ n.val
    · rw [dif_pos low]
      exact .passed (.number (Int.toNat_of_nonneg low).symm)
    · rw [dif_neg low]
      exact .failed (.negative rfl (Int.not_le.mp low))
  | text | real | boolean | moment | array | table | tables =>
    exact .failed (.settle rfl fun _ h => nomatch h)

/-- What an entry does to a layer. -/
inductive Sets (l : Layer) : String × Value → Layer → Prop
  | port {v : Value} {p : String} (h : DenotesText v p) :
      Sets l ("port", v) { l with port := some p }
  | rate {v : Value} {r : Rate} (h : DenotesRate v r) :
      Sets l ("baud", v) { l with rate := some r }
  | neutral {v : Value} {r : Rate} (h : DenotesRate v r) :
      Sets l ("neutral_baud", v) { l with neutral := some r }
  | settle {v : Value} {t : Millis} (h : DenotesTime v t) :
      Sets l ("settle_ms", v) { l with settle := some t }

/-- An entry either sets something or is refused, whatever has been set before. -/
theorem setEntry_checked (l : Layer) (key : String) (v : Value) :
    Checked (Sets l (key, v)) (Misfits (key, v)) (setEntry l key v) := by
  unfold setEntry
  split
  · rename_i hk
    subst hk
    exact (portOf_checked v).map (fun _ h => .port h) (fun _ h => h)
  split
  · rename_i hk
    subst hk
    exact (rateOf_checked v).map (fun _ h => .rate h) (fun _ h => h _ (.inl rfl))
  split
  · rename_i hk
    subst hk
    exact (rateOf_checked v).map (fun _ h => .neutral h) (fun _ h => h _ (.inr rfl))
  split
  · rename_i hk
    subst hk
    exact (settleOf_checked v).map (fun _ h => .settle h) (fun _ h => h)
  · rename_i hp hb hn hs
    exact .failed (.unknownKey (by simp [hp, hb, hn, hs]))

theorem DenotesRate.fits {key : String} {v : Value} {r : Rate} (h : DenotesRate v r)
    (hk : IsRateKey key) : Fits (key, v) := by
  cases h with
  | number h => exact .number hk (h ▸ Int.natCast_nonneg _) (by have := r.fits; omega)
  | name h => exact .name hk h

theorem Sets.fits {l l' : Layer} {e : String × Value} (h : Sets l e l') : Fits e := by
  cases h with
  | port h =>
    cases h
    exact .port rfl
  | rate h => exact h.fits (.inl rfl)
  | neutral h => exact h.fits (.inr rfl)
  | settle h =>
    cases h with
    | number h => exact .settle rfl (h ▸ Int.natCast_nonneg _)

/-- No entry both fits and misfits: where the keys do not tell, the values do. -/
theorem Misfits.not_fits {e : String × Value} {m : Misfit} (h : Misfits e m) : ¬ Fits e := by
  intro hf
  cases h <;> cases hf <;> simp_all [IsRateKey]
  · omega
  · omega

theorem Misfits.unique {e : String × Value} {m m' : Misfit} (h : Misfits e m)
    (h' : Misfits e m') : m = m' := by
  cases h <;> cases h' <;> simp_all [IsRateKey]

theorem setEntry_of_fits {key : String} {v : Value} (h : Fits (key, v)) (l : Layer) :
    ∃ l', setEntry l key v = .ok l' ∧ Sets l (key, v) l' := by
  have hc := setEntry_checked l key v
  generalize setEntry l key v = x at hc
  cases hc with
  | passed hs => exact ⟨_, rfl, hs⟩
  | failed hm => exact absurd h hm.not_fits

theorem setEntry_of_misfits {key : String} {v : Value} {m : Misfit} (h : Misfits (key, v) m)
    (l : Layer) : setEntry l key v = .error m := by
  have hc := setEntry_checked l key v
  generalize setEntry l key v = x at hc
  cases hc with
  | passed hs => exact absurd hs.fits h.not_fits
  | failed hm => rw [hm.unique h]

theorem misfits_of_not_fits {e : String × Value} (h : ¬ Fits e) : ∃ m, Misfits e m := by
  have hc := setEntry_checked Layer.empty e.1 e.2
  generalize setEntry Layer.empty e.1 e.2 = x at hc
  cases hc with
  | passed hs => exact absurd hs.fits h
  | failed hm => exact ⟨_, hm⟩

theorem called_describe (v : Value) : Called v (describe v) := by
  cases v with
  | text s => exact .text s
  | integer n =>
    have h := Called.integer n
    rw [← n.text_eq_toString] at h
    exact h
  | real x => exact .real x
  | boolean b =>
    cases b with
    | true => exact .true
    | false => exact .false
  | moment m => exact .moment m
  | array items => exact .array items
  | table origin entries => exact .table origin entries
  | tables elements => exact .tables elements

theorem Called.unique {v : Value} {name name' : String} (h : Called v name)
    (h' : Called v name') : name = name' := by
  cases h <;> cases h' <;> rfl

theorem message_unknownKey (key : String) :
    (Misfit.unknownKey key).message = "unknown field `" ++ key ++
      "`, expected one of `port`, `baud`, `neutral_baud`, `settle_ms`" := by
  have hkeys : "`, expected one of " ++ ", ".intercalate (keys.map fun k => "`" ++ k ++ "`") =
      "`, expected one of `port`, `baud`, `neutral_baud`, `settle_ms`" := by decide
  rw [← hkeys, ← String.append_assoc]
  rfl

theorem message_wrongType (v : Value) (expected : String) :
    (Misfit.wrongType v expected).message =
      "invalid type: " ++ describe v ++ (", expected " ++ expected) :=
  String.append_assoc

/-- What a misfit is told with is settled by the entry. -/
theorem blamed_iff {e : String × Value} {text : String} :
    Blamed e text ↔ ∃ m, Misfits e m ∧ m.message = text := by
  have hstring : ", expected " ++ "a string" = ", expected a string" := by decide
  have hnumber : ", expected " ++ "u64" = ", expected u64" := by decide
  constructor
  · intro h
    cases h with
    | unknownKey hk => exact ⟨_, .unknownKey hk, message_unknownKey _⟩
    | port hk hv hn =>
      refine ⟨_, .port hk hv, ?_⟩
      rw [message_wrongType, hstring, hn.unique (called_describe _)]
    | settle hk hv hn =>
      refine ⟨_, .settle hk hv, ?_⟩
      rw [message_wrongType, hnumber, hn.unique (called_describe _)]
    | @negative _ n hk hn =>
      refine ⟨_, .negative hk hn, ?_⟩
      rw [← n.text_eq_toString]
      rfl
    | number hk hn => exact ⟨_, .number hk hn, rfl⟩
    | @name _ s t hk hs ht =>
      cases hr : Rate.parse s with
      | ok r => exact absurd hr (hs r)
      | error e =>
        refine ⟨_, .name hk hr, ?_⟩
        rw [Rate.parse_eq_error hr, ← ht.eq_trim]
        rfl
    | other hk hn hs => exact ⟨_, .other hk hn hs, rfl⟩
  · rintro ⟨m, h, rfl⟩
    cases h with
    | unknownKey hk => exact message_unknownKey _ ▸ .unknownKey hk
    | port hk hv =>
      rw [message_wrongType, hstring]
      exact .port hk hv (called_describe _)
    | settle hk hv =>
      rw [message_wrongType, hnumber]
      exact .settle hk hv (called_describe _)
    | @negative _ n hk hn =>
      have hb := Blamed.negative hk hn
      rw [← n.text_eq_toString] at hb
      exact hb
    | number hk hn => exact .number hk hn
    | name hk h =>
      obtain rfl := Rate.parse_eq_error h
      exact .name hk (fun r hr => nomatch hr.symm.trans h) (Text.trimmed_trim _)
    | other hk hn hs => exact .other hk hn hs

/-- There is one text to tell of each entry that does not fit. -/
theorem exists_unique_blamed {e : String × Value} (h : ¬ Fits e) : ∃! text, Blamed e text := by
  obtain ⟨m, hm⟩ := misfits_of_not_fits h
  refine ⟨m.message, blamed_iff.mpr ⟨m, hm, rfl⟩, ?_⟩
  intro text ht
  obtain ⟨m', hm', rfl⟩ := blamed_iff.mp ht
  rw [hm'.unique hm]

/-- Sets one entry after another. -/
def setAll (es : Entries) (l : Layer) : Except Misfit Layer :=
  es.foldlM (fun l (key, v) => setEntry l key v) l

theorem setAll_cons_of_fits {e : String × Value} (h : Fits e) (es : Entries) (l : Layer) :
    ∃ l', Sets l e l' ∧ setAll (e :: es) l = setAll es l' := by
  obtain ⟨l', hs, hl⟩ := setEntry_of_fits h l
  refine ⟨l', hl, ?_⟩
  simp only [setAll, List.foldlM_cons, hs]
  rfl

theorem setAll_cons_of_misfits {e : String × Value} {m : Misfit} (hm : Misfits e m) (es : Entries)
    (l : Layer) : setAll (e :: es) l = .error m := by
  simp only [setAll, List.foldlM_cons, setEntry_of_misfits hm l]
  rfl

theorem setAll_of_fits {es : Entries} (h : ∀ e ∈ es, Fits e) (l : Layer) :
    ∃ l', setAll es l = .ok l' := by
  induction es generalizing l with
  | nil => exact ⟨l, rfl⟩
  | cons e es ih =>
    obtain ⟨l', _, hs⟩ := setAll_cons_of_fits (h e List.mem_cons_self) es l
    rw [hs]
    exact ih (fun x hx => h x (List.mem_cons_of_mem e hx)) l'

/-- What stands behind the first entry that does not fit is not looked at. -/
theorem setAll_of_misfits {before : Entries} (h : ∀ e ∈ before, Fits e) {e : String × Value}
    {m : Misfit} (hm : Misfits e m) (after : Entries) (l : Layer) :
    setAll (before ++ e :: after) l = .error m := by
  induction before generalizing l with
  | nil => exact setAll_cons_of_misfits hm after l
  | cons x before ih =>
    obtain ⟨l', _, hs⟩ := setAll_cons_of_fits (h x List.mem_cons_self) (before ++ e :: after) l
    rw [List.cons_append, hs]
    exact ih (fun y hy => h y (List.mem_cons_of_mem x hy)) l'

/-- Entries that do not all fit have a first one among them that does not. -/
theorem exists_first_misfit {es : Entries} (h : ¬ ∀ e ∈ es, Fits e) :
    ∃ before e after m, es = before ++ e :: after ∧ (∀ x ∈ before, Fits x) ∧ Misfits e m := by
  induction es with
  | nil => exact absurd (fun _ he => nomatch he) h
  | cons e es ih =>
    by_cases he : Fits e
    · have hs : ¬ ∀ x ∈ es, Fits x := fun hs => h (List.forall_mem_cons.mpr ⟨he, hs⟩)
      obtain ⟨before, x, after, m, rfl, hb, hm⟩ := ih hs
      exact ⟨e :: before, x, after, m, rfl, List.forall_mem_cons.mpr ⟨he, hb⟩, hm⟩
    · obtain ⟨m, hm⟩ := misfits_of_not_fits he
      exact ⟨[], e, es, m, rfl, fun _ hx => (nomatch hx), hm⟩

/-- A layer that sets nothing holds an empty document. -/
theorem Holds.empty : Holds Layer.empty [] := ⟨.none, .none, .none, .none⟩

/-- A new entry adds what it denotes to what the layer holds. -/
theorem Sets.holds {l l' : Layer} {key : String} {v : Value} {es : Entries}
    (h : Sets l (key, v) l') (hl : Holds l es) (hk : key ∉ es.keys) :
    Holds l' (es.append key v) := by
  have new : ∀ {α : Type} {D : Value → α → Prop} {x : α}, D v x →
      Option.Rel D ((es.append key v).get? key) (some x) := by
    intro α D x hx
    rw [Entries.get?_append_self hk]
    exact .some hx
  have keep : ∀ {α : Type} {D : Value → α → Prop} {x : Option α} {k : String}, key ≠ k →
      Option.Rel D (es.get? k) x → Option.Rel D ((es.append key v).get? k) x := by
    intro α D x k hne hx
    rw [Entries.get?_append_of_ne hne]
    exact hx
  cases h with
  | port h =>
    exact ⟨new h, keep (by decide) hl.rate, keep (by decide) hl.neutral, keep (by decide) hl.settle⟩
  | rate h =>
    exact ⟨keep (by decide) hl.port, new h, keep (by decide) hl.neutral, keep (by decide) hl.settle⟩
  | neutral h =>
    exact ⟨keep (by decide) hl.port, keep (by decide) hl.rate, new h, keep (by decide) hl.settle⟩
  | settle h =>
    exact ⟨keep (by decide) hl.port, keep (by decide) hl.rate, keep (by decide) hl.neutral, new h⟩

/-- Induction on the entries to come; those that have been read are held. -/
theorem holds_of_setAll {done es : Entries} {l l' : Layer} (hd : (done ++ es).Distinct)
    (hl : Holds l done) (h : setAll es l = .ok l') : Holds l' (done ++ es) := by
  induction es generalizing done l with
  | nil =>
    cases h
    rwa [List.append_nil]
  | cons e es ih =>
    obtain ⟨key, v⟩ := e
    have hk : key ∉ done.keys := by
      intro hm
      rw [Entries.Distinct, Entries.keys, List.map_append] at hd
      exact (List.nodup_append.mp hd).2.2 key hm key (by simp) rfl
    have hassoc : done ++ (key, v) :: es = done.append key v ++ es := by simp [Entries.append]
    by_cases hf : Fits (key, v)
    · obtain ⟨l₁, hs, he⟩ := setAll_cons_of_fits hf es l
      rw [he] at h
      rw [hassoc] at hd ⊢
      exact ih hd (hs.holds hl hk) h
    · obtain ⟨m, hm⟩ := misfits_of_not_fits hf
      cases (setAll_cons_of_misfits hm es l).symm.trans h

theorem DenotesRate.unique (v : Value) (r r' : Rate) (h : DenotesRate v r)
    (h' : DenotesRate v r') : r = r' := by
  cases h with
  | number h =>
    cases h' with
    | number h' =>
      obtain ⟨n, hn⟩ := r
      obtain ⟨n', hn'⟩ := r'
      obtain rfl : n = n' := Int.ofNat.inj (h.symm.trans h')
      rfl
  | name h =>
    cases h' with
    | name h' => exact Except.ok.inj (h.symm.trans h')

theorem DenotesTime.unique (v : Value) (t t' : Millis) (h : DenotesTime v t)
    (h' : DenotesTime v t') : t = t' := by
  cases h with
  | number h =>
    cases h' with
    | number h' =>
      obtain ⟨n, hn⟩ := t
      obtain ⟨n', hn'⟩ := t'
      obtain rfl : n = n' := Int.ofNat.inj (h.symm.trans h')
      rfl

theorem DenotesText.unique (v : Value) (s s' : String) (h : DenotesText v s)
    (h' : DenotesText v s') : s = s' := by
  cases h
  cases h'
  rfl

theorem rel_unique {α : Type} {D : Value → α → Prop} (hD : ∀ v x y, D v x → D v y → x = y)
    {v : Option Value} {x y : Option α} (hx : Option.Rel D v x) (hy : Option.Rel D v y) :
    x = y := by
  cases hx with
  | none =>
    cases hy
    rfl
  | some h =>
    cases hy with
    | some h' => rw [hD _ _ _ h h']

/-- A document has one layer at most, and look-ups decide which. -/
theorem Holds.unique {l l' : Layer} {es es' : Entries} (h : Holds l es) (h' : Holds l' es')
    (he : ∀ key, es.get? key = es'.get? key) : l = l' := by
  obtain ⟨hp, hr, hn, hs⟩ := h
  obtain ⟨hp', hr', hn', hs'⟩ := h'
  rw [← he] at hp' hr' hn' hs'
  obtain ⟨port, rate, neutral, settle⟩ := l
  obtain rfl : port = l'.port := rel_unique DenotesText.unique hp hp'
  obtain rfl : rate = l'.rate := rel_unique DenotesRate.unique hr hr'
  obtain rfl : neutral = l'.neutral := rel_unique DenotesRate.unique hn hn'
  obtain rfl : settle = l'.settle := rel_unique DenotesTime.unique hs hs'
  rfl

theorem ofEntries_holds {es : Entries} {l : Layer} (hd : es.Distinct) (h : ofEntries es = .ok l) :
    Holds l es := by
  have hn : Entries.Distinct ([] ++ es) := hd
  exact holds_of_setAll hn .empty h

theorem ofEntries_ok_iff {es : Entries} : (∃ l, ofEntries es = .ok l) ↔ ∀ e ∈ es, Fits e := by
  constructor
  · rintro ⟨l, hl⟩
    apply Classical.byContradiction
    intro hn
    obtain ⟨before, e, after, m, rfl, hb, hm⟩ := exists_first_misfit hn
    cases (setAll_of_misfits hb hm after Layer.empty).symm.trans hl
  · exact fun h => setAll_of_fits h Layer.empty

theorem ofEntries_error_iff {es : Entries} {m : Misfit} :
    ofEntries es = .error m ↔
      ∃ before e after, es = before ++ e :: after ∧ (∀ x ∈ before, Fits x) ∧ ¬ Fits e ∧
        Misfits e m := by
  constructor
  · intro h
    have hn : ¬ ∀ e ∈ es, Fits e := by
      intro hf
      obtain ⟨l, hl⟩ := setAll_of_fits hf Layer.empty
      cases h.symm.trans hl
    obtain ⟨before, e, after, m', rfl, hb, hm⟩ := exists_first_misfit hn
    obtain rfl : m' = m :=
      Except.error.inj ((setAll_of_misfits hb hm after Layer.empty).symm.trans h)
    exact ⟨before, e, after, rfl, hb, hm.not_fits, hm⟩
  · rintro ⟨before, e, after, rfl, hb, _, hm⟩
    exact setAll_of_misfits hb hm after Layer.empty

theorem ofEntries_perm {es es' : Entries} {l : Layer} (hd : es.Distinct) (hp : es.Perm es')
    (h : ofEntries es = .ok l) : ofEntries es' = .ok l := by
  have hd' : es'.Distinct := (hp.map Prod.fst).nodup_iff.mp hd
  have hf := ofEntries_ok_iff.mp ⟨l, h⟩
  obtain ⟨l', hl'⟩ := ofEntries_ok_iff.mpr fun e he => hf e (hp.mem_iff.mpr he)
  rw [hl', (ofEntries_holds hd h).unique (ofEntries_holds hd' hl') (Entries.get?_perm hp hd)]

/-- A file that holds a document is loaded as that document is. -/
theorem load_document {files : Files} {path text : String} {es : Entries}
    (hf : files path = .ok text) (ht : document? text = some es) :
    load files path = (ofEntries es).mapError (fun m => .unusable path (.misfit m)) := by
  simp only [load, hf, ofText, ht]
  cases ofEntries es <;> rfl

/-- What is loaded comes from a document. -/
theorem exists_document_of_load {files : Files} {path : String} {l : Layer}
    (h : load files path = .ok l) :
    ∃ text es, files path = .ok text ∧ document? text = some es ∧ ofEntries es = .ok l := by
  cases hf : files path with
  | error e =>
    simp only [load, hf] at h
    cases h
  | ok text =>
    cases ht : document? text with
    | none =>
      simp only [load, hf, ofText, ht] at h
      cases h
    | some es =>
      rw [load_document hf ht] at h
      cases ho : ofEntries es with
      | error m =>
        rw [ho] at h
        cases h
      | ok l' =>
        rw [ho] at h
        obtain rfl := Except.ok.inj h
        exact ⟨text, es, rfl, ht, ho⟩

/-- What the load of a document fails with names the file, and what is wrong with the first entry
that does not fit. -/
theorem exists_load_error {files : Files} {path text : String} {before after : Entries}
    {e : String × Value} (hf : files path = .ok text)
    (ht : document? text = some (before ++ e :: after)) (hb : ∀ x ∈ before, Fits x)
    (he : ¬ Fits e) :
    ∃ err told, load files path = .error err ∧ Blamed e told ∧
      err.chain = ["failed to parse config file " ++ path, told] := by
  obtain ⟨m, hm⟩ := misfits_of_not_fits he
  refine ⟨.unusable path (.misfit m), m.message, ?_, blamed_iff.mpr ⟨m, hm, rfl⟩, rfl⟩
  rw [load_document hf ht, ofEntries_error_iff.mpr ⟨before, e, after, rfl, hb, he, hm⟩]
  rfl

/-- Just the documents all of whose entries fit become layers, which hold what the entries say in
whatever order. The first entry that does not fit is told, whatever stands around it, and there is
one text to tell of it. Every file that is a document is loaded so, and its keys are distinct; where
it is not loaded, the report names the file and ends with that text. -/
theorem ofEntries_fitting :
    (∀ es : Entries,
      ((∃ l, ofEntries es = .ok l) ↔ ∀ e ∈ es, Fits e) ∧
      (∀ m, ofEntries es = .error m ↔
        ∃ before e after, es = before ++ e :: after ∧ (∀ x ∈ before, Fits x) ∧ ¬ Fits e ∧
          Misfits e m) ∧
      (es.Distinct → ∀ l, ofEntries es = .ok l →
        Holds l es ∧ ∀ es' : Entries, es.Perm es' → ofEntries es' = .ok l)) ∧
    (∀ e : String × Value, ¬ Fits e → ∃! told, Blamed e told) ∧
    ∀ (files : Files) (path text : String) (es : Entries), files path = .ok text →
      document? text = some es →
      es.Distinct ∧
        load files path = (ofEntries es).mapError (fun m => .unusable path (.misfit m)) ∧
        ∀ before e after, es = before ++ e :: after → (∀ x ∈ before, Fits x) → ¬ Fits e →
          ∃ err told, load files path = .error err ∧ Blamed e told ∧
            err.chain = ["failed to parse config file " ++ path, told] := by
  refine ⟨fun es => ⟨ofEntries_ok_iff, fun m => ofEntries_error_iff, ?_⟩, ?_, ?_⟩
  · intro hd l hl
    exact ⟨ofEntries_holds hd hl, fun es' hp => ofEntries_perm hd hp hl⟩
  · exact fun e he => exists_unique_blamed he
  · intro files path text es hf ht
    refine ⟨document_distinct ht, load_document hf ht, ?_⟩
    rintro before e after rfl hb he
    exact exists_load_error hf ht hb he

/-- A file with two entries, which may as well stand the other way round, and one with a negative
number before a key that is unknown. -/
theorem ofEntries_fitting_listen :
    let text := "settle_ms = 250\nbaud = \"listen\"\n"
    let es : Entries :=
      [("settle_ms", .integer ⟨250, by decide, by decide⟩), ("baud", .text "listen")]
    let l : Layer := { rate := some ⟨28800, by decide⟩, settle := some ⟨250, by decide⟩ }
    document? text = some es ∧ es.Distinct ∧ Holds l es ∧
      (load (fun _ => .ok text) "switch.toml").toOption = some l ∧
      ofEntries es.reverse = .ok l ∧
      ∃ err, load (fun _ => .ok "settle_ms = -5\nspeed = 1\n") "old.toml" = .error err ∧
        err.chain = ["failed to parse config file old.toml",
          "invalid value: integer `-5`, expected u64"] := by
  intro text es l
  have ht : document? text = some es := by
    simp only [text, es]
    with_unfolding_all rfl
  obtain ⟨hd, hload, _⟩ := ofEntries_fitting.2.2 (fun _ => .ok text) "switch.toml" text es rfl ht
  have hl : ofEntries es = .ok l := rfl
  obtain ⟨hh, hp⟩ := (ofEntries_fitting.1 es).2.2 hd l hl
  refine ⟨ht, hd, hh, ?_, hp es.reverse (List.reverse_perm es).symm, ?_⟩
  · rw [hload, hl]
    rfl
  · let n : Integer := ⟨-5, by decide, by decide⟩
    have hdoc : document? "settle_ms = -5\nspeed = 1\n" =
        some [("settle_ms", .integer n), ("speed", .integer ⟨1, by decide, by decide⟩)] := by
      with_unfolding_all rfl
    have hn : ¬ Fits ("settle_ms", .integer n) :=
      Misfits.not_fits (.negative rfl (by decide))
    obtain ⟨_, _, herr⟩ := ofEntries_fitting.2.2 (fun _ => .ok _) "old.toml" _ _ rfl hdoc
    obtain ⟨err, told, he, hb, hchain⟩ := herr [] _ _ rfl (fun _ hx => nomatch hx) hn
    obtain ⟨_, _, hone⟩ := ofEntries_fitting.2.1 _ hn
    obtain rfl := (hone _ hb).trans (hone _ (.negative rfl (by decide))).symm
    exact ⟨err, he, hchain⟩

end Config
end MagicBaud
