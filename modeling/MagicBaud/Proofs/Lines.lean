import Mathlib.Data.List.DropRight
import MagicBaud.Proofs.Keys
import MagicBaud.Proofs.Scanning

namespace MagicBaud.Toml

/-- A line is ended by a line feed, perhaps behind a carriage return, or by the end of the text. The
second text is what stands behind the end. -/
inductive Ends : List Char → List Char → Prop
  | finish : Ends [] []
  | feed {rest : List Char} : Ends ('\n' :: rest) rest
  | returned {rest : List Char} : Ends ('\r' :: '\n' :: rest) rest

def IsBlankChar (c : Char) : Prop := c = ' ' ∨ c = '\t'

/-- Control characters have no place in a comment, but for tabs. -/
def IsCommentChar (c : Char) : Prop := c = '\t' ∨ 0x20 ≤ c.toNat ∧ c.toNat ≠ 0x7F

/-- What stands on a line that says nothing. -/
inductive Filler : List Char → Prop
  | blank {ws : List Char} (hw : ∀ c ∈ ws, IsBlankChar c) : Filler ws
  | comment {ws cs : List Char} (hw : ∀ c ∈ ws, IsBlankChar c) (hc : ∀ c ∈ cs, IsCommentChar c) :
      Filler (ws ++ '#' :: cs)

/-- A key that needs no quotation marks. -/
structure BareKey (key : String) : Prop where
  ne_nil : key.toList ≠ []
  bare : ∀ c ∈ key.toList, isBare c = true

/-- The text of lines that give these keys these values, in this order. -/
inductive Lines : Entries → List Char → Prop
  | done : Lines [] []
  | filler {line tail rest : List Char} {es : Entries} (hf : Filler line) (he : Ends tail rest)
      (hr : Lines es rest) : Lines es (line ++ tail)
  | pair {key : String} {v : Value} {w tail rest : List Char} {es : Entries} (hk : BareKey key)
      (hv : v.Written w) (he : Ends tail rest) (hr : Lines es rest) :
      Lines ((key, v) :: es) (key.toList ++ ' ' :: '=' :: ' ' :: (w ++ tail))

/-- The first text goes on as the second, behind lines that give these keys these values. -/
inductive Through : Entries → List Char → List Char → Prop
  | here {rest : List Char} : Through [] rest rest
  | filler {line tail cs rest : List Char} {es : Entries} (hf : Filler line) (he : Ends tail cs)
      (hr : Through es cs rest) : Through es (line ++ tail) rest
  | pair {key : String} {v : Value} {w tail cs rest : List Char} {es : Entries} (hk : BareKey key)
      (hv : v.Written w) (he : Ends tail cs) (hr : Through es cs rest) :
      Through ((key, v) :: es) (key.toList ++ ' ' :: '=' :: ' ' :: (w ++ tail)) rest

theorem Lines.through {es : Entries} {cs : List Char} (h : Lines es cs) : Through es cs [] := by
  induction h with
  | done => exact .here
  | filler hf he _ ih => exact .filler hf he ih
  | pair hk hv he _ ih => exact .pair hk hv he ih

/-- Lines go on with lines. -/
theorem Through.lines {es es' : Entries} {cs rest : List Char} (h : Through es cs rest)
    (hr : Lines es' rest) : Lines (es ++ es') cs := by
  induction h with
  | here => exact hr
  | filler hf he _ ih => exact .filler hf he (ih hr)
  | pair hk hv he _ ih => exact .pair hk hv he (ih hr)

theorem IsBlankChar.isWhite {c : Char} (h : IsBlankChar c) : isWhite c = true := by
  rcases h with rfl | rfl <;> rfl

theorem IsCommentChar.isPlain {c : Char} (h : IsCommentChar c) : isPlain c = true := by
  rcases h with rfl | ⟨low, hn⟩
  · rfl
  · simp [Toml.isPlain, low, hn]

theorem skipWhite_append {ws : List Char} (hw : ∀ c ∈ ws, IsBlankChar c) (rest : List Char) :
    skipWhite (ws ++ rest) = skipWhite rest :=
  List.dropWhile_append_of_pos fun c hc => (hw c hc).isWhite

theorem Ends.lineEnd? {tail rest : List Char} (h : Ends tail rest) :
    lineEnd? tail = some rest := by
  cases h <;> rfl

theorem Ends.dropWhile_isPlain {tail rest : List Char} (h : Ends tail rest) :
    tail.dropWhile isPlain = tail := by
  cases h <;> rfl

theorem Ends.detached {tail rest : List Char} (h : Ends tail rest) : Detached tail := by
  intro c hc
  cases h with
  | finish => cases hc
  | feed | returned =>
    obtain rfl := Option.some.inj hc
    decide

theorem lineEnd?_of_finish {cs tail rest : List Char} (h : Ends tail rest)
    (hs : skipComment (skipWhite cs) = tail) : lineEnd? cs = some rest := by
  rw [Toml.lineEnd?, hs]
  cases h <;> rfl

theorem Filler.lineEnd? {line tail rest : List Char} (h : Filler line) (he : Ends tail rest) :
    lineEnd? (line ++ tail) = some rest := by
  cases h with
  | blank hw => rw [Toml.lineEnd?, skipWhite_append hw, ← Toml.lineEnd?, he.lineEnd?]
  | comment hw hc =>
    apply lineEnd?_of_finish he
    rw [List.append_assoc, skipWhite_append hw]
    refine (List.dropWhile_append_of_pos fun c h => (hc c h).isPlain).trans ?_
    exact he.dropWhile_isPlain

theorem skipWhite_skipWhite (cs : List Char) : skipWhite (skipWhite cs) = skipWhite cs :=
  List.dropWhile_idempotent isWhite cs

theorem items_of_lineEnd {cs rest : List Char} (h : lineEnd? cs = some rest) :
    items cs = items rest := by
  rw [items]
  split
  · rename_i hs
    rw [lineEnd?, hs] at h
    obtain rfl : [] = rest := Option.some.inj h
    rw [items]
    rfl
  · rename_i c start hs
    have hl : lineEnd? (c :: start) = some rest := by
      rw [← hs, lineEnd?, skipWhite_skipWhite]
      exact h
    split
    · rename_i rest' he
      cases hl.symm.trans he
      rfl
    · rename_i he
      cases hl.symm.trans he

theorem items_nil : items [] = some [] := by
  rw [items]
  rfl

theorem items_of_item {cs after rest : List Char} {i : Item} (hw : skipWhite cs = cs)
    (hn : lineEnd? cs = none) (hi : item.read cs = some (i, after))
    (hl : lineEnd? after = some rest) : items cs = (items rest).map (i :: ·) := by
  rw [items]
  split
  · rename_i hs
    obtain rfl : cs = [] := hw.symm.trans hs
    cases hn
  · rename_i c start hs
    obtain rfl : cs = c :: start := hw.symm.trans hs
    split
    · rename_i he
      cases hn.symm.trans he
    · split
      · rename_i hi'
        cases hi.symm.trans hi'
      · rename_i hi'
        cases hi.symm.trans hi'
        split
        · rename_i hl'
          cases hl.symm.trans hl'
        · rename_i hl'
          cases hl.symm.trans hl'
          rfl

theorem items_of_no_item {cs : List Char} (hw : skipWhite cs = cs) (hn : lineEnd? cs = none)
    (hi : item.read cs = none) : items cs = none := by
  rw [items]
  split
  · rename_i hs
    obtain rfl : cs = [] := hw.symm.trans hs
    cases hn
  · rename_i c start hs
    obtain rfl : cs = c :: start := hw.symm.trans hs
    split
    · rename_i he
      cases hn.symm.trans he
    · split
      · rfl
      · rename_i hi'
        cases hi.symm.trans hi'

namespace BareKey
variable {key : String}

/-- A key begins with a character that begins nothing else. -/
theorem exists_cons (h : BareKey key) :
    ∃ c cs, key.toList = c :: cs ∧ ∀ d, isBare d = false → c ≠ d := by
  obtain ⟨c, cs, hc⟩ := List.exists_cons_of_ne_nil h.ne_nil
  refine ⟨c, cs, hc, ?_⟩
  rintro d hd rfl
  exact nomatch hd.symm.trans (h.bare c (hc ▸ List.mem_cons_self))

theorem skipWhite (h : BareKey key) (rest : List Char) :
    skipWhite (key.toList ++ rest) = key.toList ++ rest := by
  obtain ⟨c, cs, hc, hne⟩ := h.exists_cons
  rw [hc]
  exact List.dropWhile_cons_of_neg (by simp [isWhite, hne ' ' rfl, hne '\t' rfl])

theorem lineEnd?_eq_none (h : BareKey key) (rest : List Char) :
    lineEnd? (key.toList ++ rest) = none := by
  rw [lineEnd?, h.skipWhite]
  obtain ⟨c, cs, hc, hne⟩ := h.exists_cons
  rw [hc, List.cons_append]
  simp [skipComment, newline?, hne '#' rfl, hne '\n' rfl, hne '\r' rfl]

theorem simpleKey (h : BareKey key) {c : Char} (hc : isBare c = false) (rest : List Char) :
    simpleKey.read (key.toList ++ c :: rest) = some (key, c :: rest) := by
  have hquoted : ∀ mark, isBare mark = false →
      (shortString mark).read (key.toList ++ c :: rest) = none := by
    intro mark hm
    obtain ⟨k, ks, hk, hne⟩ := h.exists_cons
    rw [hk]
    exact if_neg (hne mark hm)
  have htake : (key.toList ++ c :: rest).takeWhile isBare = key.toList := by
    rw [List.takeWhile_append_of_pos h.bare, List.takeWhile_cons_of_neg (by simp [hc]),
      List.append_nil]
  have hdrop : (key.toList ++ c :: rest).dropWhile isBare = c :: rest := by
    rw [List.dropWhile_append_of_pos h.bare, List.dropWhile_cons_of_neg (by simp [hc])]
  have hn : key.toList.isEmpty = false := List.isEmpty_eq_false_iff.mpr h.ne_nil
  simp only [Toml.simpleKey, Reader.map, Reader.orElse, hquoted '"' rfl, hquoted '\'' rfl,
    Option.none_or, bareKey, htake, hdrop, hn, Bool.false_eq_true, if_false, Option.map_some,
    String.ofList_toList]

theorem keyParts (h : BareKey key) (rest : List Char) :
    keyParts (key.toList ++ ' ' :: '=' :: rest) = some ([key], '=' :: rest) := by
  have hk : Toml.simpleKey.read (Toml.skipWhite (key.toList ++ ' ' :: '=' :: rest)) =
      some (key, ' ' :: '=' :: rest) := by
    rw [h.skipWhite]
    exact h.simpleKey rfl _
  have hs : Toml.skipWhite (' ' :: '=' :: rest) = '=' :: rest := rfl
  rw [Toml.keyParts]
  split
  · rename_i hk'
    cases hk.symm.trans hk'
  · rename_i k rest' hk'
    cases hk.symm.trans hk'
    split
    · rename_i hr
      cases hs.symm.trans hr
    · rfl

theorem keyPath (h : BareKey key) (rest : List Char) :
    keyPath.read (key.toList ++ ' ' :: '=' :: rest) = some (⟨[], key⟩, '=' :: rest) := by
  have hk := h.keyParts rest
  simp only [Toml.keyPath, Reader.mapSome, hk, Option.bind_some]
  rfl

/-- Behind a key there is a value, or the line says nothing that can be read. -/
theorem item_eq (h : BareKey key) (cs : List Char) :
    item.read (key.toList ++ ' ' :: '=' :: cs) =
      (value.read (Toml.skipWhite cs)).map fun (v, rest) => (.pair ⟨[], key⟩ v, rest) := by
  have hheader : header.read (key.toList ++ ' ' :: '=' :: cs) = none := by
    obtain ⟨k, ks, hk, hne⟩ := h.exists_cons
    rw [hk]
    simp [header, readHeader, hne '[' rfl]
  have hkey := h.keyPath cs
  simp only [Toml.item, Reader.orElse, Reader.map, hheader, Option.none_or, entry, hkey]
  cases value.read (Toml.skipWhite cs) <;> rfl

theorem item (h : BareKey key) {v : Value} {w tail : List Char} (hv : v.Written w)
    (ht : Detached tail) : item.read (key.toList ++ ' ' :: '=' :: ' ' :: (w ++ tail)) =
      some (.pair ⟨[], key⟩ v, tail) := by
  have hs : Toml.skipWhite (' ' :: (w ++ tail)) = w ++ tail := hv.not_white tail
  rw [h.item_eq, hs, hv.value ht]
  rfl

end BareKey

/-- A key in no table but the document itself. -/
def Item.ofEntry (e : String × Value) : Item := .pair ⟨[], e.1⟩ e.2

/-- Induction on the lines. -/
theorem Through.items {es : Entries} {cs rest : List Char} (h : Through es cs rest) :
    items cs = (items rest).map (es.map Item.ofEntry ++ ·) := by
  induction h with
  | here => exact Option.map_id'.symm
  | filler hf he _ ih => rw [items_of_lineEnd (hf.lineEnd? he), ih]
  | pair hk hv he _ ih =>
    rw [items_of_item (hk.skipWhite _) (hk.lineEnd?_eq_none _) (hk.item hv he.detached) he.lineEnd?,
      ih, Option.map_map]
    rfl

theorem Lines.items {es : Entries} {cs : List Char} (h : Lines es cs) :
    items cs = some (es.map Item.ofEntry) := by
  rw [h.through.items, items_nil, Option.map_some, List.append_nil]

theorem pairsBefore_ofEntry (es : Entries) :
    pairsBefore (es.map Item.ofEntry) = (es.map fun e => (⟨[], e.1⟩, e.2), []) := by
  induction es with
  | nil => rfl
  | cons e es ih =>
    rw [List.map_cons, Item.ofEntry, pairsBefore, ih]
    rfl

/-- Distinct keys are entered as they come, behind those that have been. -/
theorem Entries.putAll_ofEntry {done es : Entries} (h : (done ++ es).Distinct) :
    putAll (es.map fun e => (⟨[], e.1⟩, e.2)) done = some (done ++ es) := by
  induction es generalizing done with
  | nil => rw [List.append_nil, List.map_nil, putAll, List.foldlM_nil]; rfl
  | cons e es ih =>
    have hk : get? e.1 done = none := by
      rw [get?_eq_none_iff]
      intro hm
      rw [Distinct, keys, List.map_append] at h
      exact (List.nodup_append.mp h).2.2 e.1 hm e.1 List.mem_cons_self rfl
    have hp : put e.1 e.2 [] done = some (append e.1 e.2 done) := by
      rw [put, hk]
      rfl
    have ha : done ++ e :: es = append e.1 e.2 done ++ es := by simp [append]
    have hstep : putAll ((e :: es).map fun e => (⟨[], e.1⟩, e.2)) done =
        (put e.1 e.2 [] done).bind (putAll (es.map fun e => (⟨[], e.1⟩, e.2))) := rfl
    rw [ha] at h ⊢
    rw [hstep, hp, Option.bind_some, ih h]

theorem assemble_ofEntry {es : Entries} (h : es.Distinct) :
    assemble (es.map Item.ofEntry) = some es := by
  have hp : Entries.putAll (es.map fun e => (⟨[], e.1⟩, e.2)) [] = some es :=
    Entries.putAll_ofEntry h
  rw [assemble, pairsBefore_ofEntry, hp, Option.bind_some, addSections]

theorem withoutMark_eq {cs : List Char} (h : cs.head? ≠ some '\ufeff') : withoutMark cs = cs := by
  unfold withoutMark
  split
  · exact absurd rfl h
  · rfl

theorem BareKey.head_ne {key : String} (h : BareKey key) (rest : List Char) :
    (key.toList ++ rest).head? ≠ some '\ufeff' := by
  obtain ⟨c, cs, hc, hne⟩ := h.exists_cons
  rw [hc]
  exact fun h => hne '\ufeff' rfl (Option.some.inj h)

/-- No line begins with a mark of the byte order. -/
theorem Through.head_ne {es : Entries} {cs rest : List Char} (h : Through es cs rest)
    (hr : rest.head? ≠ some '\ufeff') : cs.head? ≠ some '\ufeff' := by
  have blank : ∀ c, IsBlankChar c → c ≠ '\ufeff' := by
    rintro c (rfl | rfl) <;> decide
  cases h with
  | here => exact hr
  | @filler line tail cs rest es hf he hr =>
    cases hf with
    | blank hw =>
      cases line with
      | nil => cases he <;> exact fun h => nomatch h
      | cons c line => exact fun h => blank c (hw c List.mem_cons_self) (Option.some.inj h)
    | @comment ws cs hw hc =>
      cases ws with
      | nil => exact fun h => nomatch h
      | cons c ws => exact fun h => blank c (hw c List.mem_cons_self) (Option.some.inj h)
  | pair hk _ _ _ => exact hk.head_ne _

/-- Lines that give distinct keys their values are the document of just these. -/
theorem Lines.document? {es : Entries} {text : String} (h : Lines es text.toList)
    (hd : es.Distinct) : document? text = some es := by
  have hm : text.toList.head? ≠ some '\ufeff' := h.through.head_ne (by simp)
  rw [Toml.document?, withoutMark_eq hm, h.items, Option.bind_some, assemble_ofEntry hd]

end MagicBaud.Toml
