import MagicBaud.Proofs.ConfigText
import MagicBaud.Proofs.Exchange
import MagicBaud.Proofs.Messages
import MagicBaud.Proofs.Naming
import MagicBaud.Proofs.Precedence

namespace MagicBaud
open Toml

/-- What is told of a text that is no rate, without the blanks around it. -/
def Rate.complaint (t : String) : String :=
  "invalid baud rate '" ++ Text.trim t ++ "': expected an integer or a preset name"

theorem Rate.complaint_printable {t : String} (h : Text.Printable t) :
    Text.Printable (complaint t) := by
  have ht : Text.Printable (Text.trim t) := by
    obtain ⟨u, v, _, hs⟩ := (Text.trimmed_trim t).within
    exact fun c hc => h c (hs ▸ List.mem_append_left v (List.mem_append_right u hc))
  have hfront : Text.Printable "invalid baud rate '" := by decide
  exact (hfront.append ht).append (by decide)

namespace Toml.Integer

/-- The text of a number is read as the number if it is not negative, and not at all if it is. -/
theorem read_text {limit m : Nat} {n : Integer}
    (h : Text.Decimal.read limit n.text.toList = .ok m) : n.val = m := by
  rw [toList_text] at h
  by_cases hn : n.val < 0
  · rw [if_pos hn] at h
    cases h
  · rw [if_neg hn] at h
    obtain ⟨rfl, _⟩ := Text.Decimal.read_write_eq h
    omega

theorem toNat_lt_of_mem_text {n : Integer} {c : Char} (h : c ∈ n.text.toList) : c.toNat < 0x41 := by
  rcases mem_text h with rfl | hd
  · decide
  · have := Text.toNat_of_isDigit hd
    omega

theorem trim_text (n : Integer) : Text.trim n.text = n.text := by
  have hb : ∀ c ∈ n.text.toList, Text.isBlank c = false := by
    intro c hc
    rcases mem_text hc with rfl | hd
    · decide
    · exact Text.isBlank_of_isDigit hd
  have h := Text.trim_of_not_blank hb
  rwa [String.ofList_toList] at h

/-- No number is a name. -/
theorem find?_text (n : Integer) : Preset.find? n.text = none := by
  obtain ⟨c, cs, hn⟩ := List.exists_cons_of_ne_nil n.text_ne_nil
  exact Preset.find?_eq_none hn (toNat_lt_of_mem_text (hn ▸ List.mem_cons_self))

/-- The text of a number names the rate of this number, if it is one. -/
theorem parse_text_iff (n : Integer) (r : Rate) : Rate.parse n.text = .ok r ↔ n.val = r.baud := by
  constructor
  · intro h
    rw [Rate.parse_eq_ok_iff, n.trim_text, Rate.said_iff, n.find?_text, Option.or_none,
      Rate.number?_eq_some_iff] at h
    exact read_text (Text.Decimal.read_eq_ok_iff.mpr ⟨h, r.fits⟩)
  · intro h
    have ht : n.text = r.text := by
      rw [text, Rate.text, if_neg (by omega), h]
      rfl
    rw [ht]
    exact Rate.parse_text r

theorem exists_rate_iff {n : Integer} :
    (∃ r : Rate, n.val = r.baud) ↔ 0 ≤ n.val ∧ n.val < 4294967296 := by
  constructor
  · rintro ⟨r, h⟩
    have := r.fits
    omega
  · rintro ⟨low, high⟩
    exact ⟨⟨n.val.toNat, by omega⟩, (Int.toNat_of_nonneg low).symm⟩

end Toml.Integer

/-- What tokens lead to: a reply, something wrong with the file, or settings. -/
def CommandLine.outcome (files : Files) (tokens : List String) :
    Except Reply (Except Config.LoadError Settings) :=
  (parse tokens).map (settings files)

/-- The rate at which a port is toggled, and the one at which it is left. -/
inductive Speed where
  | target
  | neutral

namespace Speed
open CommandLine Config

/-- Its key in a file. -/
def key : Speed → String
  | .target => "baud"
  | .neutral => "neutral_baud"

/-- Its field of a command line. -/
def field : Speed → Field
  | .target => .rate
  | .neutral => .neutral

/-- The token that gives it on a command line. -/
def token : Speed → String → String
  | .target, t => t
  | .neutral, t => "--neutral-baud=" ++ t

/-- Whether such a token can give this text. -/
def Sayable : Speed → String → Prop
  | .target, t => ¬ Dashed t
  | .neutral, _ => True

def get (l : Layer) : Speed → Option Rate
  | .target => l.rate
  | .neutral => l.neutral

def set (l : Layer) (r : Rate) : Speed → Layer
  | .target => { l with rate := some r }
  | .neutral => { l with neutral := some r }

def unset (l : Layer) : Speed → Layer
  | .target => { l with rate := none }
  | .neutral => { l with neutral := none }

def rate (s : Settings) : Speed → Rate
  | .target => s.target
  | .neutral => s.neutral

variable {speed : Speed}

@[simp] theorem set_unset (l : Layer) (r : Rate) : speed.set (speed.unset l) r = speed.set l r := by
  cases speed <;> rfl

@[simp] theorem set_set (l : Layer) (r r' : Rate) :
    speed.set (speed.set l r) r' = speed.set l r' := by
  cases speed <;> rfl

theorem unset_set {l : Layer} (h : speed.get l = none) (r : Rate) :
    speed.unset (speed.set l r) = l := by
  obtain ⟨port, rate, neutral, settle⟩ := l
  cases speed <;> cases h <;> rfl

theorem set_or (line file : Layer) (r : Rate) :
    (speed.set line r).or file = speed.set (line.or file) r := by
  cases speed <;> rfl

theorem or_set {line : Layer} (h : speed.get line = none) (file : Layer) (r : Rate) :
    line.or (speed.set file r) = speed.set (line.or file) r := by
  obtain ⟨port, rate, neutral, settle⟩ := line
  cases speed <;> cases h <;> rfl

theorem rate_resolve_set (l : Layer) (r : Rate) : speed.rate (speed.set l r).resolve = r := by
  cases speed <;> rfl

theorem isRateKey (speed : Speed) : IsRateKey speed.key := by
  cases speed
  · exact .inl rfl
  · exact .inr rfl

theorem set_of_sets {l l' : Layer} {key : String} {v : Value} {r : Rate} (h : Sets l (key, v) l')
    (hk : key = speed.key) (hv : DenotesRate v r) : l' = speed.set l r := by
  cases h with
  | port | settle => cases speed <;> simp [Speed.key] at hk
  | rate h =>
    cases speed with
    | target => rw [DenotesRate.unique v _ _ h hv, set]
    | neutral => simp [Speed.key] at hk
  | neutral h =>
    cases speed with
    | target => simp [Speed.key] at hk
    | neutral => rw [DenotesRate.unique v _ _ h hv, set]

/-- A second line leaves the rate to its file, and all else is set as the first line and its file
have it. -/
structure Alike (speed : Speed) (line file line' file' : Layer) : Prop where
  left : speed.get line' = none
  rest : speed.unset (line.or file) = speed.unset (line'.or file')

/-- All else being equal, it does not matter which of the two has the rate. -/
theorem Alike.resolve {line file line' file' : Layer} (h : speed.Alike line file line' file')
    (r : Rate) :
    ((speed.set line r).or file).resolve = (line'.or (speed.set file' r)).resolve := by
  rw [set_or, or_set h.left, ← set_unset, h.rest, set_unset]

/-- Tokens with a place for the rate between them: with some rate there they are accepted. What else
they set, and what the file behind them sets. -/
inductive Open (speed : Speed) (files : Files) (front back : List String) : Layer → Layer → Prop
  | intro {c c' : CommandLine} {file : Layer} {t : String} {r : Rate}
      (hfront : parse front = .ok c) (hs : "--" ∉ front) (hn : speed.get c.layer = none)
      (ht : speed.Sayable t) (hr : Rate.parse t = .ok r)
      (hp : parse (front ++ speed.token t :: back) = .ok c') (hb : c'.Backed files file) :
      Open speed files front back (speed.unset c'.layer) file

/-- Tokens that name a file which gives the rate as this value, with what they set and what the
other entries of the file set. -/
inductive Given (speed : Speed) (v : Value) (path : String) (files : Files)
    (tokens : List String) : Layer → Layer → Prop
  | intro {c : CommandLine} {text : String} {before after : Entries} {file : Layer}
      (hp : parse tokens = .ok c) (hc : c.config = some path) (hf : files path = .ok text)
      (ht : document? text = some (before ++ (speed.key, v) :: after))
      (ho : ofEntries (before ++ after) = .ok file) :
      Given speed v path files tokens c.layer file

variable {files : Files} {front back tokens : List String} {line file : Layer} {path t : String}
  {v : Value} {r : Rate} {c : CommandLine}

theorem gives (hn : speed.get c.layer = none) (ht : speed.Sayable t) :
    c.Gives speed.field t (speed.token t) := by
  cases speed with
  | target => exact .word hn ht
  | neutral => exact .joined (s := .neutral Rate.neutral) rfl t

theorem free (hn : speed.get c.layer = none) : c.has speed.field = false := by
  cases speed <;> exact Option.isSome_eq_false_iff.mpr (Option.isNone_iff_eq_none.mpr hn)

theorem put_ok (hr : Rate.parse t = .ok r) (c : CommandLine) :
    c.put speed.field t = .ok { c with layer := speed.set c.layer r } := by
  cases speed <;> simp only [field, put, rateValue, hr] <;> rfl

theorem put_error {e : UnknownRate} (he : Rate.parse t = .error e) (c : CommandLine) :
    c.put speed.field t = .error (.unfit speed.field t (.rate e)) := by
  cases speed <;> simp only [field, put, rateValue, he] <;> rfl

theorem assigns (speed : Speed) (r : Rate) :
    Assigns speed.field fun c => { c with layer := speed.set c.layer r } := by
  cases speed with
  | target => exact .rate r
  | neutral => exact .neutral r

/-- Behind tokens that leave the rate open there is a place for it. -/
theorem open_last (hp : parse tokens = .ok c) (hs : "--" ∉ tokens)
    (hn : speed.get c.layer = none) (hb : c.Backed files file) :
    speed.Open files tokens [] c.layer file := by
  have ht : speed.Sayable Rate.neutral.text := by
    cases speed with
    | target => exact fun h => absurd h (by decide)
    | neutral => trivial
  have hr : Rate.parse Rate.neutral.text = .ok Rate.neutral := Rate.parse_text Rate.neutral
  have hlast := parse_giving hp hs (gives hn ht)
  rw [give_eq_put (free hn), put_ok hr] at hlast
  have hopen : speed.Open files tokens [] (speed.unset (speed.set c.layer Rate.neutral)) file :=
    .intro hp hs hn ht hr hlast (hb.congr rfl)
  rwa [unset_set hn] at hopen

/-- A rate on the command line stands above the file. -/
theorem Open.accepted (h : speed.Open files front back line file) (ht : speed.Sayable t)
    (hr : Rate.parse t = .ok r) :
    outcome files (front ++ speed.token t :: back) =
      .ok (.ok ((speed.set line r).or file).resolve) := by
  cases h with
  | @intro c c' file t₀ r₀ hfront hs hn ht₀ hr₀ hp hb =>
    have hread := parse_exchange hfront hs (free hn) (gives hn ht₀) (gives hn ht) (put_ok hr₀ c) hp
      (assigns speed r) (by rw [put_ok hr, set_set])
    have hb' : CommandLine.Backed files { c' with layer := speed.set c'.layer r } file :=
      hb.congr rfl
    rw [outcome, hread, set_unset]
    exact congrArg _ hb'.settings_eq

theorem Open.refused {e : UnknownRate} (h : speed.Open files front back line file)
    (ht : speed.Sayable t) (he : Rate.parse t = .error e) :
    outcome files (front ++ speed.token t :: back) =
      .error (.refused (.unfit speed.field t (.rate e))) := by
  obtain ⟨hfront, hs, hn, ht₀, hr₀, hp, _⟩ := h
  rw [outcome, parse_exchange_refused hfront hs (free hn) (gives hn ht₀) (gives hn ht) hp
    (put_error he _)]
  rfl

/-- What is written of a refused rate holds its text and why it is none. -/
theorem shown_unfit {cause : ValueFault} (h : Text.Printable t)
    (hc : cause.message = Rate.complaint t) :
    Text.InTurn [t, speed.field.label, Rate.complaint t]
      (Refusal.unfit speed.field t cause).shown := by
  have hw := Refusal.told_inTurn .suspends (.unfit speed.field t cause)
  have hlabel : Text.Printable speed.field.label := by cases speed <;> decide
  rwa [Refusal.about, hc, Text.legible_eq_self (by simp [h, hlabel, Rate.complaint_printable h])]
    at hw

theorem report_unusable {fault : Config.Fault} (path : String)
    (hf : fault.message = Rate.complaint t) :
    Text.InTurn
      (Text.lines ("failed to parse config file " ++ path) ++ Text.lines (Rate.complaint t))
      (Failure.config (.unusable path fault)).report := by
  have hchain : (Failure.config (.unusable path fault)).chain =
      ["failed to parse config file " ++ path, Rate.complaint t] :=
    congrArg (fun told => ["failed to parse config file " ++ path, told]) hf
  have hw := Failure.reportOf_inTurn ["failed to parse config file " ++ path, Rate.complaint t]
  rw [List.flatMap_cons, List.flatMap_singleton] at hw
  rwa [Failure.report, hchain]

/-- The place of an entry in the document does not matter. -/
theorem ofEntries_insert {before after : Entries} {r : Rate}
    (hd : Entries.Distinct (before ++ (speed.key, v) :: after))
    (ho : ofEntries (before ++ after) = .ok file) (hv : DenotesRate v r) :
    ofEntries (before ++ (speed.key, v) :: after) = .ok (speed.set file r) := by
  obtain ⟨l, hl, hset⟩ := setEntry_of_fits (hv.fits speed.isRateKey) file
  have hlast : ofEntries (before ++ after ++ [(speed.key, v)]) = .ok l := by
    rw [ofEntries, List.foldlM_append]
    rw [ofEntries] at ho
    rw [ho]
    exact (bind_pure _).trans hl
  have hp : (before ++ after ++ [(speed.key, v)]).Perm (before ++ (speed.key, v) :: after) :=
    (List.perm_append_singleton _ _).trans List.perm_middle.symm
  have hd' : Entries.Distinct (before ++ after ++ [(speed.key, v)]) :=
    (hp.map Prod.fst).nodup_iff.mpr hd
  rw [ofEntries_perm hd' hp hlast, set_of_sets hset rfl hv]

theorem Given.accepted {r : Rate} (h : speed.Given v path files tokens line file)
    (hv : DenotesRate v r) :
    outcome files tokens = .ok (.ok (line.or (speed.set file r)).resolve) := by
  obtain ⟨hp, hc, hf, ht, ho⟩ := h
  have hl := load_document hf ht
  rw [ofEntries_insert (document_distinct ht) ho hv] at hl
  rw [outcome, hp]
  exact congrArg _ (CommandLine.Backed.loaded hc hl).settings_eq

theorem Given.refused {m : Misfit} (h : speed.Given v path files tokens line file)
    (hm : Misfits (speed.key, v) m) :
    outcome files tokens = .ok (.error (.unusable path (.misfit m))) := by
  cases h with
  | @intro c text before after file hp hc hf ht ho =>
    have hfits : ∀ e ∈ before, Fits e :=
      fun e he => ofEntries_ok_iff.mp ⟨_, ho⟩ e (List.mem_append_left after he)
    have hl := load_document hf ht
    rw [ofEntries_error_iff.mpr ⟨before, _, after, rfl, hfits, hm.not_fits, hm⟩] at hl
    rw [outcome, hp]
    exact congrArg _ (settings_of_load_error hc hl)

/-- A document may consist of the rate alone, written as any text or number. -/
theorem exists_document (speed : Speed) {w : List Char} (hw : v.Written w) :
    ∃ text, document? text = some [(speed.key, v)] := by
  have hk : BareKey speed.key := bareKey_of_mem (by cases speed <;> decide)
  have hl : Lines [(speed.key, v)] (speed.key.toList ++ ' ' :: '=' :: ' ' :: (w ++ [])) :=
    .pair hk hw .finish .done
  rw [← String.toList_ofList (l := _ ++ _)] at hl
  exact ⟨_, hl.document? (List.nodup_singleton _)⟩

/-- On the command line and in the file a rate leads to the same settings. -/
theorem Open.agrees {files' : Files} {tokens' : List String} {line' file' : Layer}
    (h : speed.Open files front back line file)
    (h' : speed.Given v path files' tokens' line' file') (ha : speed.Alike line file line' file')
    (ht : speed.Sayable t) (hr : Rate.parse t = .ok r) (hv : DenotesRate v r) :
    ∃ s, outcome files (front ++ speed.token t :: back) = .ok (.ok s) ∧
      outcome files' tokens' = .ok (.ok s) ∧ speed.rate s = r := by
  refine ⟨_, h.accepted ht hr, ?_, ?_⟩
  · rw [ha.resolve]
    exact h'.accepted hv
  · rw [set_or]
    exact rate_resolve_set _ r

theorem Given.accepted_integer_iff {n : Integer}
    (h : speed.Given (.integer n) path files tokens line file) :
    (∃ s, outcome files tokens = .ok (.ok s)) ↔ 0 ≤ n.val ∧ n.val < 4294967296 := by
  constructor
  · rintro ⟨s, hs⟩
    by_contra hn
    have hm : Misfits (speed.key, .integer n) .noRate := .number speed.isRateKey (by omega)
    cases hs.symm.trans (h.refused hm)
  · intro hn
    obtain ⟨r, hr⟩ := Integer.exists_rate_iff.mpr hn
    exact ⟨_, h.accepted (.number hr)⟩

/-- The digits of a number do not begin as the name of an argument does. -/
theorem sayable_text {n : Integer} (hn : 0 ≤ n.val) : speed.Sayable n.text := by
  cases speed with
  | neutral => trivial
  | target =>
    intro hd
    rw [Dashed, n.toList_text, if_neg (Int.not_lt.mpr hn)] at hd
    exact nomatch Text.Decimal.isDigit_of_mem_write (List.mem_of_mem_head? hd)

/-- One rate, however it is given. A text is the same rate on the command line, at any place for
it, and in the file, so that all else being equal it leads to the same settings, or it is refused
in both places, with the same text in the message and in what is written for the user. A whole
number in the file is a rate just if its digits are one, that is if 32 bits hold it, and then the
number, its digits in the file and its digits on the command line lead to the same settings. There
is a place behind all tokens that leave the rate open, and all these values can stand in a file. -/
theorem outcome_spelled (speed : Speed) :
    (∀ t files front back line file files' tokens' path' line' file', speed.Sayable t →
      speed.Open files front back line file →
      speed.Given (.text t) path' files' tokens' line' file' →
      speed.Alike line file line' file' →
      (∃ s, outcome files (front ++ speed.token t :: back) = .ok (.ok s) ∧
        outcome files' tokens' = .ok (.ok s) ∧ Rate.parse t = .ok (speed.rate s)) ∨
      ∃ cause fault,
        outcome files (front ++ speed.token t :: back) =
          .error (.refused (.unfit speed.field t cause)) ∧
        outcome files' tokens' = .ok (.error (.unusable path' fault)) ∧
        cause.message = Rate.complaint t ∧ fault.message = Rate.complaint t ∧
        (Text.Printable t → Text.InTurn [t, speed.field.label, Rate.complaint t]
          (Refusal.unfit speed.field t cause).shown) ∧
        Text.InTurn
          (Text.lines ("failed to parse config file " ++ path') ++ Text.lines (Rate.complaint t))
          (Failure.config (.unusable path' fault)).report) ∧
    (∀ n : Integer,
      ((∃ r, Rate.parse n.text = .ok r) ↔ 0 ≤ n.val ∧ n.val < 4294967296) ∧
      ∀ files tokens path line file, speed.Given (.integer n) path files tokens line file →
        ((∃ s, outcome files tokens = .ok (.ok s)) ↔ 0 ≤ n.val ∧ n.val < 4294967296) ∧
        ∀ files₁ front back line₁ file₁ files₂ tokens₂ path₂ line₂ file₂, 0 ≤ n.val →
          n.val < 4294967296 → speed.Open files₁ front back line₁ file₁ →
          speed.Given (.text n.text) path₂ files₂ tokens₂ line₂ file₂ →
          speed.Alike line₁ file₁ line file → speed.Alike line₁ file₁ line₂ file₂ →
          ∃ s, outcome files tokens = .ok (.ok s) ∧
            outcome files₁ (front ++ speed.token n.text :: back) = .ok (.ok s) ∧
            outcome files₂ tokens₂ = .ok (.ok s)) ∧
    (∀ (files : Files) tokens c file, parse tokens = .ok c → "--" ∉ tokens →
      speed.get c.layer = none → c.Backed files file →
      speed.Open files tokens [] c.layer file ∧ speed.Alike c.layer file c.layer file) ∧
    (∀ t, ∃ text, document? text = some [(speed.key, .text t)]) ∧
    ∀ n, ∃ text, document? text = some [(speed.key, .integer n)] := by
  refine ⟨?_, fun n => ⟨?_, ?_⟩, ?_, ?_, fun n => exists_document speed .integer⟩
  · intro t files front back line file files' tokens' path' line' file' ht h h' ha
    cases hr : Rate.parse t with
    | ok r =>
      obtain ⟨s, hs, hs', rfl⟩ := h.agrees h' ha ht hr (.name hr)
      exact .inl ⟨s, hs, hs', rfl⟩
    | error e =>
      obtain rfl := Rate.parse_eq_error hr
      exact .inr ⟨_, _, h.refused ht hr, h'.refused (.name speed.isRateKey hr), rfl, rfl,
        fun hp => shown_unfit hp rfl, report_unusable path' rfl⟩
  · simp only [n.parse_text_iff, Integer.exists_rate_iff]
  · intro files tokens path line file h
    refine ⟨h.accepted_integer_iff, ?_⟩
    intro files₁ front back line₁ file₁ files₂ tokens₂ path₂ line₂ file₂ low high h₁ h₂ ha ha₂
    obtain ⟨r, hr⟩ := Integer.exists_rate_iff.mpr ⟨low, high⟩
    have hp : Rate.parse n.text = .ok r := (n.parse_text_iff r).mpr hr
    obtain ⟨s, hs₁, hs, _⟩ := h₁.agrees h ha (sayable_text low) hp (.number hr)
    obtain ⟨s₂, hs₁', hs₂, _⟩ := h₁.agrees h₂ ha₂ (sayable_text low) hp (.name hp)
    obtain rfl : s = s₂ := Except.ok.inj (Except.ok.inj (hs₁.symm.trans hs₁'))
    exact ⟨s, hs, hs₁, hs₂⟩
  · intro files tokens c file hp hs hn hb
    exact ⟨open_last hp hs hn hb, hn, rfl⟩
  · intro t
    obtain ⟨w, hw⟩ := exists_spells t.toList
    exact exists_document speed (.text hw)

/-- A number in three spellings before a rate and a port, and a text that is no rate before a port,
which the file has as well. -/
theorem outcome_spelled_number :
    let files : Files := fun path =>
      if path = "number" then .ok "neutral_baud = 0x10\n"
      else if path = "digits" then .ok "neutral_baud = '16'\n"
      else .ok "port = \"COM3\"\nbaud = \" x\""
    (∃ s, outcome files ["-v", "--neutral-baud=16", "dfu", "COM3"] = .ok (.ok s) ∧
      outcome files ["dfu", "-c", "number", "COM3"] = .ok (.ok s) ∧
      outcome files ["dfu", "-c", "digits", "COM3"] = .ok (.ok s)) ∧
    ∃ cause fault,
      outcome files [" x", "COM3"] = .error (.refused (.unfit .rate " x" cause)) ∧
      outcome files ["-c", "text"] = .ok (.error (.unusable "text" fault)) ∧
      cause.message = "invalid baud rate 'x': expected an integer or a preset name" ∧
      fault.message = "invalid baud rate 'x': expected an integer or a preset name" ∧
      Text.InTurn
        [" x", "[BAUD]", "invalid baud rate 'x': expected an integer or a preset name"]
        (Refusal.unfit .rate " x" cause).shown := by
  intro files
  let n : Integer := ⟨16, by decide, by decide⟩
  let named : Layer := { rate := some ⟨14400, by decide⟩, port := some "COM3" }
  let port : Layer := { port := some "COM3" }
  have hr : Rate.parse "0" = .ok ⟨0, by decide⟩ := rfl
  have hopen : Speed.neutral.Open files ["-v"] ["dfu", "COM3"] named .empty := by
    have hfront : parse ["-v"] = .ok { verbose := true } := rfl
    have hp : parse (["-v"] ++ Speed.neutral.token "0" :: ["dfu", "COM3"]) =
        .ok { layer := { named with neutral := some ⟨0, by decide⟩ }, verbose := true } := rfl
    have ht : Speed.neutral.Sayable "0" := trivial
    exact Open.intro hfront (by decide) rfl ht hr hp (.unnamed rfl)
  have hopen' : Speed.target.Open files [] ["COM3"] port .empty := by
    have hp : parse ([] ++ Speed.target.token "0" :: ["COM3"]) =
        .ok { layer := { port with rate := some ⟨0, by decide⟩ } } := rfl
    have hd : ¬ Dashed "0" := by decide
    have ht : Speed.target.Sayable "0" := hd
    exact Open.intro rfl List.not_mem_nil rfl ht hr hp (.unnamed rfl)
  have hnumber : Speed.neutral.Given (.integer n) "number" files ["dfu", "-c", "number", "COM3"]
      named .empty := by
    have hp : parse ["dfu", "-c", "number", "COM3"] =
        .ok { layer := named, config := some "number" } := rfl
    have ht : document? "neutral_baud = 0x10\n" =
        some ([] ++ (Speed.neutral.key, .integer n) :: []) := by with_unfolding_all rfl
    exact .intro hp rfl rfl ht rfl
  have hdigits : Speed.neutral.Given (.text n.text) "digits" files ["dfu", "-c", "digits", "COM3"]
      named .empty := by
    have hp : parse ["dfu", "-c", "digits", "COM3"] =
        .ok { layer := named, config := some "digits" } := rfl
    have ht : document? "neutral_baud = '16'\n" =
        some ([] ++ (Speed.neutral.key, .text n.text) :: []) := by with_unfolding_all rfl
    exact .intro hp rfl rfl ht rfl
  have htext : Speed.target.Given (.text " x") "text" files ["-c", "text"] .empty port := by
    have hp : parse ["-c", "text"] = .ok { config := some "text" } := rfl
    have ht : document? "port = \"COM3\"\nbaud = \" x\"" =
        some ([("port", .text "COM3")] ++ (Speed.target.key, .text " x") :: []) := by
      with_unfolding_all rfl
    exact .intro hp rfl rfl ht rfl
  have htoken : Speed.neutral.token n.text = "--neutral-baud=16" := by decide
  obtain ⟨hnumbers, hplaces⟩ := (outcome_spelled .neutral).2
  obtain ⟨s, hs, hs₁, hs₂⟩ := ((hnumbers n).2 _ _ _ _ _ hnumber).2 _ _ _ _ _ _ _ _ _ _ (by decide)
    (by decide) hopen hdigits ⟨rfl, rfl⟩ ⟨rfl, rfl⟩
  rw [htoken] at hs₁
  refine ⟨⟨s, hs₁, hs, hs₂⟩, ?_⟩
  have hd : ¬ Dashed " x" := by decide
  have hx : Speed.target.Sayable " x" := hd
  rcases (outcome_spelled .target).1 _ _ _ _ _ _ _ _ _ _ _ hx hopen' htext ⟨rfl, rfl⟩ with
    ⟨_, _, _, hr⟩ | hrefused
  · cases hr
  · obtain ⟨cause, fault, hc, hf, hcause, hfault, hshown, _⟩ := hrefused
    exact ⟨cause, fault, hc, hf, hcause, hfault, hshown (by decide)⟩

end Speed
end MagicBaud
