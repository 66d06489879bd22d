import MagicBaud.Proofs.ConfigText
import MagicBaud.Proofs.Figures
import MagicBaud.Proofs.Insertion
import MagicBaud.Proofs.Overlong
import MagicBaud.Proofs.Precedence

namespace MagicBaud

theorem Duration.toNanos_ofMillis (t : Millis) : (ofMillis t).toNanos = t.count * 1000000 := by
  simp only [toNanos, ofMillis]
  omega

theorem Duration.ofMillis_eq_zero_iff {t : Millis} : ofMillis t = zero ↔ t.count = 0 := by
  have hz : zero.toNanos = 0 := rfl
  constructor
  · intro h
    have := toNanos_ofMillis t
    rw [h, hz] at this
    omega
  · intro h
    apply toNanos_inj
    rw [toNanos_ofMillis, h, hz, Nat.zero_mul]

namespace SettleTime
open CommandLine Config Toml

def digits (n : Nat) : String := String.ofList (Text.Decimal.write n)

theorem toList_digits (n : Nat) : (digits n).toList = Text.Decimal.write n := String.toList_ofList

/-- The settings wait for just so many milliseconds. With any opener it is waited if there is
anything to wait for and the first opening succeeds, and then it is told. -/
structure Arrives (n : Nat) (s : Settings) : Prop where
  exact : s.toSwitch.settle.toNanos = n * 1000000
  seconds_lt : s.toSwitch.settle.seconds < 18446744073709551616
  nanos_lt : s.toSwitch.settle.nanos < 1000000000
  told : ∀ (σ η ε : Type) (o : Opener σ η ε) (st : σ),
    (∃ pause, Switch.waiting pause ∈ (s.toSwitch.run o st).records) ↔
      n ≠ 0 ∧ ∃ handle, (o.openPort st s.port s.target).1 = .ok handle
  waited : ∀ (σ η ε : Type) (o : Opener σ η ε) (st : σ) (d : Duration),
    .paused d ∈ (s.toSwitch.run o st).events ↔
      d = s.settle ∧ n ≠ 0 ∧ ∃ handle, (o.openPort st s.port s.target).1 = .ok handle

theorem arrives_resolve {l : Layer} {t : Millis} (h : l.settle = some t) :
    Arrives t.count l.resolve := by
  have hs : l.resolve.toSwitch.settle = Duration.ofMillis t := by
    simp only [Settings.toSwitch, Layer.resolve, h, Option.getD_some]
  have hwaits : ∀ (σ η ε : Type) (o : Opener σ η ε) (st : σ), Switch.Waits o l.resolve.toSwitch st ↔
      t.count ≠ 0 ∧ ∃ handle, (o.openPort st l.resolve.port l.resolve.target).1 = .ok handle := by
    intro σ η ε o st
    rw [Switch.Waits, hs, ne_eq, Duration.ofMillis_eq_zero_iff]
    rfl
  refine ⟨?_, Duration.seconds_lt _, Duration.nanos_lt _, ?_, ?_⟩
  · rw [hs, Duration.toNanos_ofMillis]
  · intro σ η ε o st
    rw [← hwaits]
    simp [Switch.waiting_mem_records]
  · intro σ η ε o st d
    rw [← hwaits, Switch.paused_mem_events, and_comm]
    rfl

theorem Arrives.settle_eq_iff {m n : Nat} {s s' : Settings} (h : Arrives n s) (h' : Arrives m s') :
    s.settle = s'.settle ↔ n = m := by
  have hn : s.settle.toNanos = n * 1000000 := h.exact
  have hm : s'.settle.toNanos = m * 1000000 := h'.exact
  constructor
  · intro he
    rw [he, hm] at hn
    omega
  · rintro rfl
    exact Duration.toNanos_inj (hn.trans hm.symm)

/-- The tokens say a settle time in these digits. -/
inductive Told (text : String) : List String → Prop
  | apart : Told text ["--settle-ms", text]
  | joined : Told text ["--settle-ms" ++ "=" ++ text]

/-- A settle time can be said between these tokens: they say none, no value is awaited there, and no
separator stands before. -/
structure Room (front back : List String) : Prop where
  unseparated : "--" ∉ front
  complete : ∃ c, parse front = .ok c
  unset : ∃ c, parse (front ++ back) = .ok c ∧ c.layer.settle = none

variable {n : Nat} {front back group : List String} {c : CommandLine}

theorem not_dashed_digits (n : Nat) : ¬ Dashed (digits n) := by
  intro h
  rw [Dashed, toList_digits] at h
  exact nomatch Text.Decimal.isDigit_of_mem_write (List.mem_of_mem_head? h)

theorem not_optionLike_digits (n : Nat) : ¬ OptionLike (digits n) :=
  fun ⟨_, _, h⟩ => not_dashed_digits n (congrArg List.head? h)

theorem Told.said (h : Told (digits n) group) : Said group [.value .settle (digits n)] := by
  cases h with
  | apart => exact .apart (.name .settle) (not_optionLike_digits n) .nil
  | joined => exact .whole (.joined .settle) .nil

theorem Told.unseparated (h : Told (digits n) group) : "--" ∉ group := by
  cases h with
  | apart =>
    rw [List.mem_pair]
    rintro (h | h)
    · exact absurd h (by decide)
    · exact ne_separator_of_not_optionLike (not_optionLike_digits n) h.symm
  | joined =>
    rw [List.mem_singleton]
    exact (Whole.joined .settle).ne_separator.symm

theorem Told.spelled (h : Told (digits n) group) (hn : n < 18446744073709551616) :
    (Setting.settle ⟨n, hn⟩).Spelled group := by
  have hv : (Setting.settle ⟨n, hn⟩).Valued (digits n) := by
    refine .settle ?_
    rw [toList_digits]
    exact Text.Decimal.read_write hn
  cases h with
  | apart => exact .apart hv (not_dashed_digits n)
  | joined => exact .joined hv

theorem Room.exists_parse (h : Room front back) (ht : Told (digits n) group)
    (hn : n < 18446744073709551616) : ∃ c, parse (front ++ group ++ back) = .ok c := by
  obtain ⟨hs, ⟨c₀, hfront⟩, c, hc, hunset⟩ := h
  have hfree : c.has .settle = false := by rw [has, hunset]; rfl
  exact ⟨_, parse_insert hfront hs hc rfl hfree (ht.spelled hn) (by simp)⟩

/-- What is taken is the number. -/
theorem Room.settle_eq (h : Room front back) (ht : Told (digits n) group)
    (hc : parse (front ++ group ++ back) = .ok c) :
    ∃ t, c.layer.settle = some t ∧ t.count = n := by
  obtain ⟨hs, ⟨c₀, hfront⟩, _⟩ := h
  have hsep : "--" ∉ front ++ group := List.not_mem_append hs ht.unseparated
  obtain ⟨ps, ps', hacc⟩ := exists_accounts hfront hsep ht.said hc
  have hm : digits n ∈ Piece.texts .settle (ps ++ [.value .settle (digits n)] ++ ps') := by
    simp [Piece.texts, Piece.text?]
  obtain ⟨t, ht, hnum⟩ := hacc.settle hm
  rw [toList_digits] at hnum
  exact ⟨t, ht, hnum.unique (Text.Decimal.numeral_write n)⟩

/-- The text gives the settle time this value on a line of its own, and gives other keys values that
fit on others, each key once. -/
inductive Among (value text : String) : Prop
  | intro (before after : Entries) {tail rest : List Char}
      (front : Through before text.toList
        ("settle_ms".toList ++ ' ' :: '=' :: ' ' :: (value.toList ++ tail)))
      (line : Ends tail rest) (back : Lines after rest)
      (unset : "settle_ms" ∉ (before ++ after).keys) (distinct : (before ++ after).Distinct)
      (fits : ∀ e ∈ before ++ after, Fits e)

variable {files : Files} {path text : String} {l : Layer}

theorem Among.exists_document (h : Among (digits n) text) (hn : n < 9223372036854775808) :
    ∃ es i, document? text = some es ∧ es.get? "settle_ms" = some (.integer i) ∧ i.val = n ∧
      ∀ e ∈ es, Fits e := by
  obtain ⟨before, after, front, line, back, unset, distinct, fits⟩ := h
  let i : Integer := ⟨n, by omega, by omega⟩
  have hw : (Value.integer i).Written (digits n).toList := by
    have hi : i.text.toList = (digits n).toList := by
      rw [i.toList_text, if_neg (Int.not_lt.mpr (Int.natCast_nonneg n)), toList_digits]
      rfl
    exact hi ▸ .integer
  have hlines : Lines (before ++ ("settle_ms", .integer i) :: after) text.toList :=
    front.lines (.pair (bareKey_of_mem (by decide)) hw line back)
  have hd : Entries.Distinct (before ++ ("settle_ms", .integer i) :: after) :=
    (List.perm_middle.map Prod.fst).nodup_iff.mpr (List.nodup_cons.mpr ⟨unset, distinct⟩)
  refine ⟨_, i, hlines.document? hd, ?_, rfl, ?_⟩
  · exact (Entries.get?_eq_some_iff hd).mpr (List.mem_append_right _ List.mem_cons_self)
  · intro e he
    rcases List.mem_cons.mp (List.perm_middle.mem_iff.mp he) with rfl | he
    · exact .settle rfl (Int.natCast_nonneg n)
    · exact fits e he

theorem Among.exists_load (h : Among (digits n) text) (hf : files path = .ok text)
    (hn : n < 9223372036854775808) :
    ∃ l t, load files path = .ok l ∧ l.settle = some t ∧ t.count = n := by
  obtain ⟨es, i, ht, hg, hi, hfits⟩ := h.exists_document hn
  obtain ⟨l, hl⟩ := ofEntries_ok_iff.mpr hfits
  have hload : load files path = .ok l := by
    rw [load_document hf ht, hl]
    rfl
  have hsettle := (ofEntries_holds (document_distinct ht) hl).settle
  rw [hg] at hsettle
  generalize ht : l.settle = x at hsettle
  cases hsettle with
  | some hd =>
    cases hd with
    | number hn => exact ⟨l, _, hload, ht, Int.ofNat.inj (hn.symm.trans hi)⟩

theorem Among.lt_of_load (h : Among (digits n) text) (hf : files path = .ok text)
    (hl : load files path = .ok l) : n < 9223372036854775808 := by
  by_contra hn
  obtain ⟨_, _, front, line, _, _, _, _⟩ := h
  rw [toList_digits] at front
  have hd : document? text = none :=
    document?_overlong (bareKey_of_mem (by decide)) front line.detached (Nat.not_lt.mp hn)
  simp only [load, hf, ofText, hd] at hl
  cases hl

/-- On the command line, wherever there is room, a settle time is taken just if 64 bits hold it, and
on a line of a file just if they hold it beside a sign. What is taken and not overridden is the time
to wait, exactly and from either source, so that no two numbers are the same time. With any opener
it is waited behind a first opening that succeeds, unless the number is zero. -/
theorem settle_arrives (n : Nat) :
    (∀ front back group, Room front back → Told (digits n) group →
      ((∃ c, parse (front ++ group ++ back) = .ok c) ↔ n < 18446744073709551616) ∧
      ∀ c, parse (front ++ group ++ back) = .ok c → ∀ files file, c.Backed files file →
        ∃ s, c.settings files = .ok s ∧ Arrives n s) ∧
    (∀ files path text, files path = .ok text → Among (digits n) text →
      ((∃ l, load files path = .ok l) ↔ n < 9223372036854775808) ∧
      ∀ l, load files path = .ok l → ∀ c : CommandLine, c.config = some path →
        c.layer.settle = none → ∃ s, c.settings files = .ok s ∧ Arrives n s) ∧
    ∀ m s s', Arrives n s → Arrives m s' → (s.settle = s'.settle ↔ n = m) := by
  refine ⟨?_, ?_, fun m s s' h h' => h.settle_eq_iff h'⟩
  · intro front back group hroom htold
    refine ⟨⟨?_, hroom.exists_parse htold⟩, ?_⟩
    · rintro ⟨c, hc⟩
      obtain ⟨t, _, rfl⟩ := hroom.settle_eq htold hc
      exact t.fits
    · intro c hc files file hb
      obtain ⟨t, ht, rfl⟩ := hroom.settle_eq htold hc
      refine ⟨_, hb.settings_eq, arrives_resolve ?_⟩
      simp [Layer.or, ht]
  · intro files path text hf hamong
    refine ⟨⟨fun ⟨l, hl⟩ => hamong.lt_of_load hf hl, ?_⟩, ?_⟩
    · intro hn
      obtain ⟨l, _, hl, _⟩ := hamong.exists_load hf hn
      exact ⟨l, hl⟩
    · intro l hl c hconfig hunset
      obtain ⟨l', t, hl', ht, rfl⟩ := hamong.exists_load hf (hamong.lt_of_load hf hl)
      refine ⟨_, (Backed.loaded hconfig hl').settings_eq, arrives_resolve ?_⟩
      simp [Layer.or, hunset, ht]

/-- The number at which the two sources part, and the one before it. -/
theorem settle_arrives_boundary :
    let text := "# slow\nsettle_ms = 9223372036854775807\nbaud = 1200\n"
    let files : Files := fun path =>
      if path = "last" then .ok text else .ok "settle_ms = 9223372036854775808"
    let c : CommandLine :=
      { layer := { rate := some ⟨1200, by decide⟩, settle := some ⟨9223372036854775808, by decide⟩ }
        verbose := true }
    (parse ["-v", "--settle-ms", "9223372036854775808", "1200"] = .ok c ∧
      ∃ s, c.settings files = .ok s ∧ Arrives 9223372036854775808 s) ∧
    (∀ l, load files "first" ≠ .ok l) ∧
    ∃ s, CommandLine.settings files { config := some "last" } = .ok s ∧
      Arrives 9223372036854775807 s := by
  intro text files c
  have hroom : Room ["-v"] ["1200"] := ⟨by decide, ⟨_, rfl⟩, _, rfl, rfl⟩
  have hdigits : digits 9223372036854775808 = "9223372036854775808" := by decide
  have htold : Told (digits 9223372036854775808) ["--settle-ms", "9223372036854775808"] :=
    hdigits ▸ .apart
  have hfirst : Among (digits 9223372036854775808) "settle_ms = 9223372036854775808" :=
    hdigits ▸ .intro [] [] .here .finish .done List.not_mem_nil List.nodup_nil (by simp)
  have hlast : Among (digits 9223372036854775807) text := by
    let rate : Integer := ⟨1200, by decide, by decide⟩
    let back := "baud".toList ++ ' ' :: '=' :: ' ' :: (rate.text.toList ++ ['\n'])
    let line := "settle_ms".toList ++ ' ' :: '=' :: ' ' ::
      ((digits 9223372036854775807).toList ++ '\n' :: back)
    have htext : text.toList = ([] ++ '#' :: " slow".toList) ++ '\n' :: line := by decide
    have hcomment : Filler ([] ++ '#' :: " slow".toList) :=
      .comment (by simp) (by simp [IsCommentChar])
    have hfront : Through [] text.toList line := htext ▸ .filler hcomment .feed .here
    have hback : Lines [("baud", .integer rate)] back :=
      .pair (bareKey_of_mem (by decide)) .integer .feed .done
    refine .intro [] _ hfront .feed hback (by decide) (List.nodup_singleton _) ?_
    rw [List.nil_append, List.forall_mem_singleton]
    exact .number (.inl rfl) (by decide) (by decide)
  refine ⟨?_, ?_, ?_⟩
  · have hc : parse (["-v"] ++ ["--settle-ms", "9223372036854775808"] ++ ["1200"]) = .ok c := by
      decide
    have harrives := ((settle_arrives 9223372036854775808).1 _ _ _ hroom htold).2 c hc files .empty
    exact ⟨hc, harrives (.unnamed rfl)⟩
  · intro l hl
    have hiff := ((settle_arrives 9223372036854775808).2.1 files "first" _ rfl hfirst).1
    exact absurd (hiff.mp ⟨l, hl⟩) (by decide)
  · obtain ⟨hiff, harrives⟩ := (settle_arrives 9223372036854775807).2.1 files "last" _ rfl hlast
    obtain ⟨l, hl⟩ := hiff.mpr (by decide)
    exact harrives l hl _ rfl rfl

end SettleTime
end MagicBaud
