import AgmDevice.Object

/-
The records of `/proc/asound/pcm` and what `sscanf` reads from them.

`parse_snd_card` reads the listing with `fgets(buffer, MAX_BUF_SIZE - 1, fp)`: each call returns
one record, a line with its newline or, for a line of 2047 bytes or more, a piece of it. It
reads each record with `sscanf(buffer, "%02u-%02u: %80s", &card_id, &pcm_id, name)` into a
zeroed object. Each directive of the format is a reader `List Char → Option (α × List Char)`
here, and the scan stores the conversions up to the first directive that fails, as `sscanf`
does; the fields it does not reach keep the zero `calloc` gave them.

* `scanUnsigned`, `scanChar`, `scanString` — `%<w>u`, a literal, `%<w>s`;
* `scanRecord` — the whole format;
* `deviceOfRecord` — the object discovery stores for a record whose probe succeeded;
* `listingLine` — the line the kernel writes for a PCM device, `%02i-%02i: %s : %s` and its
  streams;
* `scanRecord_listingLine` — below `100`, the scan reads back the card, the device and the
  first token of the id name; `listing_three_digit_device` — device `100` is read as `10`;
* `scanRecord_bounded`, `deviceOfRecord_bounded` — what the scan of any record can store.
-/

namespace Agm

/-- A record `fgets` returns, one `Char` per byte. The listing is read byte by byte, and every
string built from it (the name `%80s` stores, which `strlcpy` copies and `strlen` measures)
holds one `Char` per byte of the C string: its `length` is the number of bytes C counts. -/
abbrev Record := List Char

/-- `isspace` in the C locale. -/
def isCSpace (c : Char) : Bool :=
  c = ' ' || c = '\t' || c = '\n' || c = Char.ofNat 11 || c = Char.ofNat 12 || c = '\r'

/-- White space, which a blank of the format and every conversion here skip. -/
def skipSpace (s : List Char) : List Char := s.dropWhile isCSpace

/-- At most `w` leading characters that satisfy `p`, and the rest. -/
def takeAtMost (p : Char → Bool) : Nat → List Char → List Char × List Char
  | 0, s => ([], s)
  | _ + 1, [] => ([], [])
  | w + 1, c :: s =>
    if p c then
      let r := takeAtMost p w s
      (c :: r.1, r.2)
    else ([], c :: s)

/-- The value of a string of decimal digits. -/
def digitsValue (ds : List Char) : Nat :=
  ds.foldl (fun n d => 10 * n + (d.toNat - '0'.toNat)) 0

/-- `%<w>u`: white space, then an optional sign and at least one digit, `w` characters in all
at most; a minus sign negates in `unsigned` arithmetic. -/
def scanUnsigned (w : Nat) (s : List Char) : Option (UInt32 × List Char) :=
  let (neg, w, s) : Bool × Nat × List Char :=
    match skipSpace s with
    | '-' :: t => (true, w - 1, t)
    | '+' :: t => (false, w - 1, t)
    | t => (false, w, t)
  let (ds, rest) := takeAtMost Char.isDigit w s
  if ds = [] then none
  else
    let v := UInt32.ofNat (digitsValue ds)
    some (if neg then 0 - v else v, rest)

/-- A literal character of the format. -/
def scanChar (c : Char) : List Char → Option (List Char)
  | d :: s => if d = c then some s else none
  | [] => none

/-- `%<w>s`: white space, then at least one and at most `w` bytes that are not, one `Char` per
byte (`Record`). -/
def scanString (w : Nat) (s : List Char) : Option (String × List Char) :=
  let (cs, rest) := takeAtMost (fun c => !isCSpace c) w (skipSpace s)
  if cs = [] then none else some (String.mk cs, rest)

/-- What `sscanf` stores: a field is `none` when the scan stopped before its conversion. -/
structure Scanned where
  cardId : Option UInt32
  pcmId : Option UInt32
  name : Option String
  deriving DecidableEq, Repr

/-- `sscanf(buffer, "%02u-%02u: %80s", &card_id, &pcm_id, name)`: the conversions in order, up
to the first directive that fails. -/
def scanRecord (s : Record) : Scanned :=
  match scanUnsigned 2 s with
  | none => ⟨none, none, none⟩
  | some (card, s) =>
    match scanChar '-' s with
    | none => ⟨some card, none, none⟩
    | some s =>
      match scanUnsigned 2 s with
      | none => ⟨some card, none, none⟩
      | some (pcm, s) =>
        match scanChar ':' s with
        | none => ⟨some card, some pcm, none⟩
        | some s => ⟨some card, some pcm, (scanString 80 (skipSpace s)).map Prod.fst⟩

/-- The object discovery stores for a record: `calloc` zeroes it, `sscanf` fills what it
converts, `populate_device_hw_ep_info` sets the direction. -/
def deviceOfRecord (s : Record) (dir : Direction) : DeviceObj :=
  let sc := scanRecord s
  DeviceObj.fresh (sc.cardId.getD 0) (sc.pcmId.getD 0) (sc.name.getD "") dir

/-! ### The listing the kernel writes -/

/-- `%02i` of a card or device number: its decimal digits, zero-padded to two. -/
def pad2 (n : Nat) : List Char :=
  let ds := Nat.toDigits 10 n
  List.replicate (2 - ds.length) '0' ++ ds

/-- What the listing writes after the id name: ` : <name> : <streams>` and the newline. -/
def listingTail (name streams : String) : List Char :=
  [' ', ':', ' '] ++ name.toList ++ [' ', ':', ' '] ++ streams.toList ++ ['\n']

/-- The line of `/proc/asound/pcm` for card `c` and device `d`, as the comment at the `sscanf`
documents it: `<c>-<d>: <idname> : <name> : <playback/capture> 1`. -/
def listingLine (c d : Nat) (idname name streams : String) : Record :=
  pad2 c ++ '-' :: (pad2 d ++ ':' :: ' ' :: (idname.toList ++ listingTail name streams))

/-- The first token of `s`: its first run of characters that are not white space. -/
def firstToken (s : List Char) : List Char := (skipSpace s).takeWhile fun c => !isCSpace c

theorem pad2_of_lt {n : Nat} (h : n < 100) :
    pad2 n = [Nat.digitChar (n / 10), Nat.digitChar (n % 10)] := by
  by_cases h10 : n < 10
  · have h0 : Nat.digitChar 0 = '0' := rfl
    simp [pad2, Nat.toDigits, Nat.toDigitsCore, Nat.div_eq_of_lt h10, Nat.mod_eq_of_lt h10, h0]
  · obtain ⟨k, rfl⟩ : ∃ k, n = k + 1 := ⟨n - 1, by omega⟩
    have h1 : (k + 1) / 10 ≠ 0 := by omega
    have h2 : (k + 1) / 10 / 10 = 0 := by omega
    have h3 : (k + 1) / 10 % 10 = (k + 1) / 10 := by omega
    simp [pad2, Nat.toDigits, Nat.toDigitsCore, h1, h2, h3]

theorem isDigit_digitChar {a : Nat} (h : a < 10) : (Nat.digitChar a).isDigit = true := by
  interval_cases a <;> rfl

theorem isCSpace_digitChar {a : Nat} (h : a < 10) : isCSpace (Nat.digitChar a) = false := by
  interval_cases a <;> rfl

theorem toNat_digitChar {a : Nat} (h : a < 10) : (Nat.digitChar a).toNat = a + 48 := by
  interval_cases a <;> rfl

theorem skipSpace_digit {a : Nat} (ha : a < 10) (rest : List Char) :
    skipSpace (Nat.digitChar a :: rest) = Nat.digitChar a :: rest := by
  simp [skipSpace, List.dropWhile_cons, isCSpace_digitChar ha]

theorem scanUnsigned_unsigned {w : Nat} {s : List Char} {c : Char} {t : List Char}
    (hs : skipSpace s = c :: t) (hm : c ≠ '-') (hp : c ≠ '+') :
    scanUnsigned w s =
      if (takeAtMost Char.isDigit w (c :: t)).1 = [] then none
      else some (UInt32.ofNat (digitsValue (takeAtMost Char.isDigit w (c :: t)).1),
        (takeAtMost Char.isDigit w (c :: t)).2) := by
  unfold scanUnsigned
  rw [hs]
  split
  rename_i heq
  split at heq <;> simp_all

theorem scanUnsigned_digits {a b : Nat} (ha : a < 10) (hb : b < 10) (rest : List Char) :
    scanUnsigned 2 (Nat.digitChar a :: Nat.digitChar b :: rest) =
      some (UInt32.ofNat (10 * a + b), rest) := by
  have hm : Nat.digitChar a ≠ '-' ∧ Nat.digitChar a ≠ '+' := by
    interval_cases a <;> decide
  rw [scanUnsigned_unsigned (skipSpace_digit ha _) hm.1 hm.2]
  simp [takeAtMost, isDigit_digitChar ha, isDigit_digitChar hb, digitsValue,
    toNat_digitChar ha, toNat_digitChar hb]

/-- `%02u` reads back what `%02i` wrote, below `100`. -/
theorem scanUnsigned_pad2 {n : Nat} (h : n < 100) (rest : List Char) :
    scanUnsigned 2 (pad2 n ++ rest) = some (UInt32.ofNat n, rest) := by
  rw [pad2_of_lt h, List.cons_append, List.cons_append, List.nil_append,
    scanUnsigned_digits (by omega) (Nat.mod_lt _ (by omega)), Nat.div_add_mod]

/-- `%<w>s` reads a token of at most `w` characters that white space or the end follows. -/
theorem takeAtMost_token {w : Nat} {t rest : List Char} (ht : ∀ c ∈ t, isCSpace c = false)
    (hw : t.length ≤ w) (hr : ∀ c ∈ rest.head?, isCSpace c = true) :
    takeAtMost (fun c => !isCSpace c) w (t ++ rest) = (t, rest) := by
  induction t generalizing w with
  | nil =>
    cases w <;> cases rest <;> simp_all [takeAtMost]
  | cons c t ih =>
    obtain ⟨w, rfl⟩ : ∃ w', w = w' + 1 := ⟨w - 1, by simp at hw; omega⟩
    have hc : (!isCSpace c) = true := by simp [ht c (List.mem_cons_self c t)]
    rw [List.cons_append, takeAtMost, if_pos hc,
      ih (fun c hc => ht c (List.mem_cons_of_mem _ hc)) (by simpa using hw)]

theorem skipSpace_cons_space {c : Char} (h : isCSpace c = true) (s : List Char) :
    skipSpace (c :: s) = skipSpace s := by
  simp [skipSpace, List.dropWhile_cons, h]

theorem skipSpace_of_head {s : List Char} (h : ∀ c ∈ s.head?, isCSpace c = false) :
    skipSpace s = s := by
  cases s with
  | nil => rfl
  | cons c s => simp [skipSpace, List.dropWhile_cons, h c rfl]

theorem skipSpace_append {s : List Char} (h : skipSpace s ≠ []) (r : List Char) :
    skipSpace (s ++ r) = skipSpace s ++ r := by
  rw [skipSpace, List.dropWhile_append, if_neg (by simpa [skipSpace] using h)]
  rfl

/-- White space, the first token, and then white space or the end. -/
theorem skipSpace_firstToken (s : List Char) :
    ∃ v, skipSpace s = firstToken s ++ v ∧ ∀ c ∈ v.head?, isCSpace c = true := by
  refine ⟨(skipSpace s).dropWhile fun c => !isCSpace c,
    (List.takeWhile_append_dropWhile _ _).symm,
    fun c hc => ?_⟩
  have := List.head?_dropWhile_not (fun c => !isCSpace c) (skipSpace s)
  rw [Option.mem_def.1 hc] at this
  simpa using this

theorem isCSpace_of_mem_firstToken {s : List Char} {c : Char} (h : c ∈ firstToken s) :
    isCSpace c = false := by
  simpa using List.mem_takeWhile_imp h

/-- `%<w>s` reads back a token of `1` to `w` characters that white space or the end follows. -/
theorem scanString_token {w : Nat} {t rest : List Char} (hne : t ≠ [])
    (ht : ∀ c ∈ t, isCSpace c = false) (hw : t.length ≤ w)
    (hr : ∀ c ∈ rest.head?, isCSpace c = true) :
    scanString w (t ++ rest) = some (String.mk t, rest) := by
  obtain ⟨c, t', rfl⟩ := List.exists_cons_of_ne_nil hne
  have hs : skipSpace ((c :: t') ++ rest) = (c :: t') ++ rest :=
    skipSpace_of_head (by simpa using ht c (List.mem_cons_self c t'))
  simp only [scanString, hs, takeAtMost_token ht hw hr, hne, if_false]

/-- Below `100`, `sscanf` reads back the card, the device and the first token of the id name
from the line the listing writes for them. -/
theorem scanRecord_listingLine {c d : Nat} (hc : c < 100) (hd : d < 100) {idname : String}
    (hne : firstToken idname.toList ≠ []) (h80 : (firstToken idname.toList).length ≤ 80)
    (name streams : String) :
    scanRecord (listingLine c d idname name streams) =
      ⟨some (UInt32.ofNat c), some (UInt32.ofNat d),
        some (String.mk (firstToken idname.toList))⟩ := by
  obtain ⟨v, hv, hvs⟩ := skipSpace_firstToken idname.toList
  have hskip : skipSpace (' ' :: (idname.toList ++ listingTail name streams)) =
      firstToken idname.toList ++ (v ++ listingTail name streams) := by
    rw [skipSpace_cons_space (c := ' ') rfl,
      skipSpace_append (by rw [hv]; exact fun h => hne (List.append_eq_nil.1 h).1), hv,
      List.append_assoc]
  have htail : ∀ x ∈ (v ++ listingTail name streams).head?, isCSpace x = true := by
    cases v with
    | nil => intro x hx; simp [listingTail] at hx; rw [← hx]; rfl
    | cons y v => simpa using hvs
  simp only [scanRecord, listingLine, scanUnsigned_pad2 hc, scanUnsigned_pad2 hd, scanChar,
    if_true, hskip, scanString_token hne (fun _ => isCSpace_of_mem_firstToken) h80 htail,
    Option.map_some']

theorem scanRecord_listingLine_tdm :
    scanRecord (listingLine 1 23 "TERT_TDM_TX_0 multicodec-1" "" "capture 1") =
      ⟨some (UInt32.ofNat 1), some (UInt32.ofNat 23),
        some (String.mk (firstToken "TERT_TDM_TX_0 multicodec-1".toList))⟩ :=
  scanRecord_listingLine (by decide) (by decide) (by decide) (by decide) _ _

/-- `%02u` reads at most two characters: the line of device `100` is read as device `10`, the
scan stops at the third digit, and the object keeps the empty name `calloc` gave it. -/
theorem listing_three_digit_device :
    scanRecord (listingLine 0 100 "PRI_MI2S_RX multicodec-0" "" "playback 1") =
      ⟨some 0, some 10, none⟩ ∧
    deviceOfRecord (listingLine 0 100 "PRI_MI2S_RX multicodec-0" "" "playback 1") .output =
      DeviceObj.fresh 0 10 "" .output :=
  ⟨by decide, by decide⟩

/-! ### What a scan can store

Whatever the record, `%02u` stores a number it read from at most two characters and `%80s` a
token of at most `80` characters. -/

theorem takeAtMost_length_le (p : Char → Bool) : ∀ (w : Nat) (s : List Char),
    (takeAtMost p w s).1.length ≤ w
  | 0, _ => by simp [takeAtMost]
  | _ + 1, [] => by simp [takeAtMost]
  | w + 1, c :: s => by
    simp only [takeAtMost]
    split_ifs
    · simpa using takeAtMost_length_le p w s
    · simp

theorem takeAtMost_all (p : Char → Bool) : ∀ (w : Nat) (s : List Char),
    ∀ c ∈ (takeAtMost p w s).1, p c = true
  | 0, _ => by simp [takeAtMost]
  | _ + 1, [] => by simp [takeAtMost]
  | w + 1, c :: s => by
    simp only [takeAtMost]
    split_ifs with hc
    · exact List.forall_mem_cons.2 ⟨hc, takeAtMost_all p w s⟩
    · simp

theorem toNat_le_of_isDigit {c : Char} (h : c.isDigit = true) : c.toNat - '0'.toNat ≤ 9 := by
  simp only [Char.isDigit, Bool.and_eq_true, decide_eq_true_eq] at h
  have h57 : c.toNat ≤ 57 := h.2
  have h48 : '0'.toNat = 48 := rfl
  omega

theorem scanUnsigned_minus {w : Nat} {s t : List Char} (hs : skipSpace s = '-' :: t) :
    scanUnsigned w s =
      if (takeAtMost Char.isDigit (w - 1) t).1 = [] then none
      else some (0 - UInt32.ofNat (digitsValue (takeAtMost Char.isDigit (w - 1) t).1),
        (takeAtMost Char.isDigit (w - 1) t).2) := by
  simp only [scanUnsigned, hs, if_true]

theorem scanUnsigned_plus {w : Nat} {s t : List Char} (hs : skipSpace s = '+' :: t) :
    scanUnsigned w s =
      if (takeAtMost Char.isDigit (w - 1) t).1 = [] then none
      else some (UInt32.ofNat (digitsValue (takeAtMost Char.isDigit (w - 1) t).1),
        (takeAtMost Char.isDigit (w - 1) t).2) := by
  simp only [scanUnsigned, hs, Bool.false_eq_true, if_false]

/-- What `%<w>u` stores: the value of at most `w` digits, or, after a minus sign, the
`unsigned` negation of the value of at most `w - 1`. -/
theorem scanUnsigned_some {w : Nat} {s rest : List Char} {v : UInt32}
    (h : scanUnsigned w s = some (v, rest)) :
    ∃ ds : List Char, (∀ c ∈ ds, c.isDigit = true) ∧
      ((ds.length ≤ w ∧ v = UInt32.ofNat (digitsValue ds)) ∨
        (ds.length ≤ w - 1 ∧ v = 0 - UInt32.ofNat (digitsValue ds))) := by
  rcases hs : skipSpace s with _ | ⟨c, t⟩
  · cases w <;> simp [scanUnsigned, hs, takeAtMost] at h
  by_cases hm : c = '-'
  · subst hm
    rw [scanUnsigned_minus hs] at h
    split_ifs at h
    cases h
    exact ⟨_, takeAtMost_all _ _ _, .inr ⟨takeAtMost_length_le _ _ _, rfl⟩⟩
  by_cases hp : c = '+'
  · subst hp
    rw [scanUnsigned_plus hs] at h
    split_ifs at h
    cases h
    exact ⟨_, takeAtMost_all _ _ _,
      .inl ⟨(takeAtMost_length_le _ _ _).trans (Nat.sub_le _ _), rfl⟩⟩
  rw [scanUnsigned_unsigned hs hm hp] at h
  split_ifs at h
  cases h
  exact ⟨_, takeAtMost_all _ _ _, .inl ⟨takeAtMost_length_le _ _ _, rfl⟩⟩

theorem digitsValue_lt {ds : List Char} (h : ∀ c ∈ ds, c.isDigit = true) :
    digitsValue ds < 10 ^ ds.length := by
  suffices ∀ n, ds.foldl (fun n d => 10 * n + (d.toNat - '0'.toNat)) n < (n + 1) * 10 ^ ds.length
    by simpa [digitsValue] using this 0
  induction ds with
  | nil => intro n; simp
  | cons d ds ih =>
    intro n
    have hd := toNat_le_of_isDigit (h d (List.mem_cons_self d ds))
    have := ih (fun c hc => h c (List.mem_cons_of_mem d hc)) (10 * n + (d.toNat - '0'.toNat))
    calc _ < (10 * n + (d.toNat - '0'.toNat) + 1) * 10 ^ ds.length := this
      _ ≤ 10 * (n + 1) * 10 ^ ds.length := Nat.mul_le_mul_right _ (by omega)
      _ = (n + 1) * 10 ^ (d :: ds).length := by rw [List.length_cons, pow_succ]; ring

/-- A value `%02u` can store: below `100`, or the `unsigned` negation of one digit. -/
def TwoDigits (v : UInt32) : Prop := v.toNat < 100 ∨ ∃ k < 10, v = 0 - UInt32.ofNat k

theorem twoDigits_zero : TwoDigits 0 := .inl (by decide)

theorem scanUnsigned_twoDigits {s rest : List Char} {v : UInt32}
    (h : scanUnsigned 2 s = some (v, rest)) : TwoDigits v := by
  obtain ⟨ds, hds, ⟨hl, rfl⟩ | ⟨hl, rfl⟩⟩ := scanUnsigned_some h
  · have : digitsValue ds < 100 :=
      (digitsValue_lt hds).trans_le (Nat.pow_le_pow_right (by omega) hl)
    exact .inl (show digitsValue ds % 2 ^ 32 < 100 by omega)
  · exact .inr ⟨_, (digitsValue_lt hds).trans_le (Nat.pow_le_pow_right (by omega) hl), rfl⟩

/-- What `%<w>s` stores: a token of at most `w` characters, none of them white space. -/
theorem scanString_some {w : Nat} {s rest : List Char} {n : String}
    (h : scanString w s = some (n, rest)) :
    n.length ≤ w ∧ ∀ c ∈ n.toList, isCSpace c = false := by
  simp only [scanString] at h
  split_ifs at h
  cases h
  exact ⟨takeAtMost_length_le _ _ _,
    fun c hc => by simpa using takeAtMost_all _ _ _ c hc⟩

/-- A default that has a property, and every value that has it. -/
theorem getD_of_some {α : Type} {P : α → Prop} {o : Option α} {d : α}
    (h : ∀ v, o = some v → P v) (hd : P d) : P (o.getD d) := by
  cases o with
  | none => exact hd
  | some v => exact h v rfl

/-- What the scan of any record stores: numbers `%02u` can store and a token of at most `80`
characters without white space. -/
theorem scanRecord_bounded (s : Record) :
    (∀ v, (scanRecord s).cardId = some v → TwoDigits v) ∧
      (∀ v, (scanRecord s).pcmId = some v → TwoDigits v) ∧
      ∀ n, (scanRecord s).name = some n → n.length ≤ 80 ∧ ∀ c ∈ n.toList, isCSpace c = false := by
  rcases h1 : scanUnsigned 2 s with _ | ⟨card, s₁⟩
  · simp [scanRecord, h1]
  have hc := scanUnsigned_twoDigits h1
  rcases h2 : scanChar '-' s₁ with _ | s₂
  · simp [scanRecord, h1, h2, hc]
  rcases h3 : scanUnsigned 2 s₂ with _ | ⟨pcm, s₃⟩
  · simp [scanRecord, h1, h2, h3, hc]
  have hp := scanUnsigned_twoDigits h3
  rcases h4 : scanChar ':' s₃ with _ | s₄
  · simp [scanRecord, h1, h2, h3, h4, hc, hp]
  rcases h5 : scanString 80 (skipSpace s₄) with _ | ⟨n, s₅⟩
  · simp [scanRecord, h1, h2, h3, h4, h5, hc, hp]
  · simp only [scanRecord, h1, h2, h3, h4, h5, Option.map_some', Option.some.injEq]
    exact ⟨fun v hv => hv ▸ hc, fun v hv => hv ▸ hp, fun m hm => hm ▸ scanString_some h5⟩

/-- The object discovery stores for any record has a name of at most `80` characters without
white space and numbers `%02u` can store; the fields the scan did not reach keep their zeros. -/
theorem deviceOfRecord_bounded (s : Record) (dir : Direction) :
    (deviceOfRecord s dir).name.length ≤ 80 ∧
      (∀ c ∈ (deviceOfRecord s dir).name.toList, isCSpace c = false) ∧
      TwoDigits (deviceOfRecord s dir).cardId ∧ TwoDigits (deviceOfRecord s dir).pcmId := by
  obtain ⟨hc, hp, hn⟩ := scanRecord_bounded s
  have hname := @getD_of_some _ _ _ "" hn (by simp)
  exact ⟨hname.1, hname.2, getD_of_some hc twoDigits_zero, getD_of_some hp twoDigits_zero⟩

end Agm
