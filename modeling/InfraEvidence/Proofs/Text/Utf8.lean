/-
  InfraEvidence — texts and their bytes.

  * `Encodes`: the bytes of one character, in their shortest form;
  * `encodes_utf8EncodeChar`, `Encodes.eq_utf8EncodeChar`: these and no others are
    the bytes that the character is written with;
  * `decode?_eq_some_iff`: bytes are read as a text exactly if they are the
    bytes of this text;
  * `isValidUTF8_iff`: so exactly the bytes that are valid can be read;
  * `mem_of_mem_encode`: a byte below `0x80` stands for its character and is part
    of no other one;
  * `bytesOf_lt_iff`: strings are in the order of their bytes.
-/
import InfraEvidence.Text.Utf8
import Mathlib.Data.List.Basic

namespace InfraEvidence.Text

/-! ## One character -/

/-- A byte that continues a character. -/
abbrev IsTail (b : UInt8) : Prop := 0x80 ≤ b.toNat ∧ b.toNat < 0xC0

/-- The bytes of a character.  The first one tells how many there are, and the
    bounds below keep code points out of forms that are longer than needed. -/
inductive Encodes (c : Char) : List UInt8 → Prop
  | one {a : UInt8} (ha : a.toNat < 0x80) (hc : c.toNat = a.toNat) : Encodes c [a]
  | two {a b : UInt8} (ha : 0xC0 ≤ a.toNat ∧ a.toNat < 0xE0) (hb : IsTail b)
      (hc : c.toNat = (a.toNat - 0xC0) * 64 + (b.toNat - 0x80)) (hlow : 0x80 ≤ c.toNat) :
      Encodes c [a, b]
  | three {a b₁ b₂ : UInt8} (ha : 0xE0 ≤ a.toNat ∧ a.toNat < 0xF0) (hb₁ : IsTail b₁)
      (hb₂ : IsTail b₂)
      (hc : c.toNat = ((a.toNat - 0xE0) * 64 + (b₁.toNat - 0x80)) * 64 + (b₂.toNat - 0x80))
      (hlow : 0x800 ≤ c.toNat) : Encodes c [a, b₁, b₂]
  | four {a b₁ b₂ b₃ : UInt8} (ha : 0xF0 ≤ a.toNat ∧ a.toNat < 0xF8) (hb₁ : IsTail b₁)
      (hb₂ : IsTail b₂) (hb₃ : IsTail b₃)
      (hc : c.toNat = (((a.toNat - 0xF0) * 64 + (b₁.toNat - 0x80)) * 64 + (b₂.toNat - 0x80)) * 64 +
        (b₃.toNat - 0x80))
      (hlow : 0x10000 ≤ c.toNat) : Encodes c [a, b₁, b₂, b₃]

theorem toNat_ofNat_byte {n : Nat} (h : n < 256) : (UInt8.ofNat n).toNat = n := by
  rw [UInt8.toNat_ofNat', Nat.mod_eq_of_lt h]

theorem toNat_char_lt (c : Char) : c.toNat < 0x110000 := by
  have h : c.toNat.isValidChar := c.valid
  unfold Nat.isValidChar at h
  omega

/-- A character is written with bytes that encode it. -/
theorem encodes_utf8EncodeChar (c : Char) : Encodes c (String.utf8EncodeChar c) := by
  have hmax := toNat_char_lt c
  have htail : ∀ n : Nat, (UInt8.ofNat (n % 64 + 128)).toNat = n % 64 + 128 := fun n =>
    toNat_ofNat_byte (by omega)
  have hisTail : ∀ n : Nat, IsTail (UInt8.ofNat (n % 64 + 128)) := fun n => by
    rw [IsTail, htail]
    omega
  simp only [String.utf8EncodeChar, show c.val.toNat = c.toNat from rfl]
  split_ifs with h1 h2 h3
  · have ha : (UInt8.ofNat c.toNat).toNat = c.toNat := toNat_ofNat_byte (by omega)
    exact .one (by omega) ha.symm
  · have ha : (UInt8.ofNat (c.toNat / 64 % 32 + 192)).toNat = c.toNat / 64 + 192 := by
      rw [toNat_ofNat_byte (by omega)]
      omega
    exact .two (by omega) (hisTail _) (by rw [ha, htail]; omega) (by omega)
  · have ha : (UInt8.ofNat (c.toNat / 4096 % 16 + 224)).toNat = c.toNat / 4096 + 224 := by
      rw [toNat_ofNat_byte (by omega)]
      omega
    exact .three (by omega) (hisTail _) (hisTail _) (by rw [ha, htail, htail]; omega) (by omega)
  · have ha : (UInt8.ofNat (c.toNat / 262144 % 8 + 240)).toNat = c.toNat / 262144 + 240 := by
      rw [toNat_ofNat_byte (by omega)]
      omega
    exact .four (by omega) (hisTail _) (hisTail _) (hisTail _)
      (by rw [ha, htail, htail, htail]; omega) (by omega)

/-- It is written with no other bytes. -/
theorem Encodes.eq_utf8EncodeChar {c : Char} {bs : List UInt8} (h : Encodes c bs) :
    bs = String.utf8EncodeChar c := by
  have hbyte : ∀ (b : UInt8) {n : Nat}, b.toNat = n → b = UInt8.ofNat n := by
    rintro b _ rfl
    exact UInt8.ofNat_toNat.symm
  simp only [String.utf8EncodeChar, show c.val.toNat = c.toNat from rfl]
  cases h with
  | @one a ha hc =>
    rw [if_pos (by omega), ← hbyte a hc.symm]
  | @two a b ha hb hc hlow =>
    rw [if_neg (by omega), if_pos (by omega), ← hbyte a (by omega), ← hbyte b (by omega)]
  | @three a b₁ b₂ ha hb₁ hb₂ hc hlow =>
    rw [if_neg (by omega), if_neg (by omega), if_pos (by omega), ← hbyte a (by omega),
      ← hbyte b₁ (by omega), ← hbyte b₂ (by omega)]
  | @four a b₁ b₂ b₃ ha hb₁ hb₂ hb₃ hc hlow =>
    rw [if_neg (by omega), if_neg (by omega), if_neg (by omega), ← hbyte a (by omega),
      ← hbyte b₁ (by omega), ← hbyte b₂ (by omega), ← hbyte b₃ (by omega)]

/-! ## Texts -/

theorem tailBits?_eq_some {b : UInt8} {n : Nat} :
    tailBits? b = some n ↔ IsTail b ∧ b.toNat - 0x80 = n := by
  unfold tailBits? IsTail
  split
  · next h => simp [h]
  · next h => simp [h]

theorem toNat_char_ofNat {n : Nat} (h : n.isValidChar) : (Char.ofNat n).toNat = n := by
  rw [Char.ofNat, dif_pos h]
  rfl

theorem codePoint?_eq_some {low n : Nat} {c : Char} :
    codePoint? low n = some c ↔ c.toNat = n ∧ low ≤ n := by
  unfold codePoint?
  constructor
  · intro h
    split at h
    · next hn =>
      obtain rfl := Option.some.inj h
      exact ⟨toNat_char_ofNat hn.2, hn.1⟩
    · contradiction
  · rintro ⟨rfl, hlow⟩
    have hvalid : c.toNat.isValidChar := c.valid
    rw [if_pos ⟨hlow, hvalid⟩, Char.ofNat_toNat]

/-- What is read first is a character that the first bytes encode. -/
theorem exists_encodes_of_decode? {a : UInt8} {bs : List UInt8} {s : List Char}
    (h : decode? (a :: bs) = some s) :
    ∃ c t head rest, s = c :: t ∧ a :: bs = head ++ rest ∧ Encodes c head ∧
      decode? rest = some t := by
  rw [decode?.eq_def] at h
  simp only at h
  split_ifs at h with h1 h2 h3 h4
  · obtain ⟨t, ht, rfl⟩ := Option.map_eq_some_iff.1 h
    have hvalid : a.toNat.isValidChar := Or.inl (by omega)
    exact ⟨_, t, [a], bs, rfl, rfl, .one h1 (toNat_char_ofNat hvalid), ht⟩
  · split at h
    · next b rest =>
      simp only [Option.bind_eq_bind, Option.bind_eq_some_iff, tailBits?_eq_some,
        codePoint?_eq_some, pure, Option.some.injEq] at h
      obtain ⟨_, ⟨hb, rfl⟩, c, ⟨hc, hlow⟩, t, ht, rfl⟩ := h
      exact ⟨c, t, [a, b], rest, rfl, rfl, .two h2 hb hc (hc ▸ hlow), ht⟩
    · contradiction
  · split at h
    · next b₁ b₂ rest =>
      simp only [Option.bind_eq_bind, Option.bind_eq_some_iff, tailBits?_eq_some,
        codePoint?_eq_some, pure, Option.some.injEq] at h
      obtain ⟨_, ⟨hb₁, rfl⟩, _, ⟨hb₂, rfl⟩, c, ⟨hc, hlow⟩, t, ht, rfl⟩ := h
      exact ⟨c, t, [a, b₁, b₂], rest, rfl, rfl, .three h3 hb₁ hb₂ hc (hc ▸ hlow), ht⟩
    · contradiction
  · split at h
    · next b₁ b₂ b₃ rest =>
      simp only [Option.bind_eq_bind, Option.bind_eq_some_iff, tailBits?_eq_some,
        codePoint?_eq_some, pure, Option.some.injEq] at h
      obtain ⟨_, ⟨hb₁, rfl⟩, _, ⟨hb₂, rfl⟩, _, ⟨hb₃, rfl⟩, c, ⟨hc, hlow⟩, t, ht, rfl⟩ := h
      exact ⟨c, t, [a, b₁, b₂, b₃], rest, rfl, rfl, .four h4 hb₁ hb₂ hb₃ hc (hc ▸ hlow), ht⟩
    · contradiction

/-- The bytes of a character are read as it. -/
theorem Encodes.decode?_append {c : Char} {head : List UInt8} (h : Encodes c head)
    (rest : List UInt8) : decode? (head ++ rest) = (decode? rest).map (c :: ·) := by
  have hmap : (decode? rest).bind (fun s => some (c :: s)) = (decode? rest).map (c :: ·) := by
    cases decode? rest <;> rfl
  rw [decode?.eq_def]
  cases h with
  | @one a ha hc =>
    simp only [List.singleton_append, if_pos ha]
    rw [← hc, Char.ofNat_toNat]
  | @two a b ha hb hc hlow =>
    have h1 : ¬ a.toNat < 0x80 := by omega
    have hbits := tailBits?_eq_some.2 ⟨hb, rfl⟩
    have hpoint := codePoint?_eq_some.2 ⟨hc, hc ▸ hlow⟩
    simp only [List.cons_append, List.nil_append, if_neg h1, if_pos ha, hbits,
      Option.bind_eq_bind, Option.bind_some, hpoint, pure, hmap]
  | @three a b₁ b₂ ha hb₁ hb₂ hc hlow =>
    have h1 : ¬ a.toNat < 0x80 := by omega
    have h2 : ¬ (0xC0 ≤ a.toNat ∧ a.toNat < 0xE0) := by omega
    have hbits₁ := tailBits?_eq_some.2 ⟨hb₁, rfl⟩
    have hbits₂ := tailBits?_eq_some.2 ⟨hb₂, rfl⟩
    have hpoint := codePoint?_eq_some.2 ⟨hc, hc ▸ hlow⟩
    simp only [List.cons_append, List.nil_append, if_neg h1, if_neg h2, if_pos ha, hbits₁, hbits₂,
      Option.bind_eq_bind, Option.bind_some, hpoint, pure, hmap]
  | @four a b₁ b₂ b₃ ha hb₁ hb₂ hb₃ hc hlow =>
    have h1 : ¬ a.toNat < 0x80 := by omega
    have h2 : ¬ (0xC0 ≤ a.toNat ∧ a.toNat < 0xE0) := by omega
    have h3 : ¬ (0xE0 ≤ a.toNat ∧ a.toNat < 0xF0) := by omega
    have hbits₁ := tailBits?_eq_some.2 ⟨hb₁, rfl⟩
    have hbits₂ := tailBits?_eq_some.2 ⟨hb₂, rfl⟩
    have hbits₃ := tailBits?_eq_some.2 ⟨hb₃, rfl⟩
    have hpoint := codePoint?_eq_some.2 ⟨hc, hc ▸ hlow⟩
    simp only [List.cons_append, List.nil_append, if_neg h1, if_neg h2, if_neg h3, if_pos ha,
      hbits₁, hbits₂, hbits₃, Option.bind_eq_bind, Option.bind_some, hpoint, pure, hmap]

theorem encode_cons (c : Char) (s : List Char) :
    encode (c :: s) = String.utf8EncodeChar c ++ encode s := List.flatMap_cons

theorem encode_append (s t : List Char) : encode (s ++ t) = encode s ++ encode t :=
  List.flatMap_append

/-- **Bytes are read as a text exactly if they are its bytes.** -/
theorem decode?_eq_some_iff {bs : List UInt8} {s : List Char} :
    decode? bs = some s ↔ bs = encode s := by
  constructor
  · intro h
    induction s generalizing bs with
    | nil =>
      cases bs with
      | nil => rfl
      | cons a bs =>
        obtain ⟨_, _, _, _, hs, -⟩ := exists_encodes_of_decode? h
        contradiction
    | cons c s ih =>
      cases bs with
      | nil => simp [decode?] at h
      | cons a bs =>
        obtain ⟨c', s', head, rest, hs, hbytes, hc, hrest⟩ := exists_encodes_of_decode? h
        obtain ⟨rfl, rfl⟩ := List.cons.inj hs
        rw [hbytes, encode_cons, ← ih hrest, hc.eq_utf8EncodeChar]
  · rintro rfl
    induction s with
    | nil => rfl
    | cons c s ih =>
      rw [encode_cons, (encodes_utf8EncodeChar c).decode?_append, ih, Option.map_some]

theorem decode?_encode (s : List Char) : decode? (encode s) = some s := decode?_eq_some_iff.2 rfl

/-- The bytes of a string. -/
def bytesOf (text : String) : List UInt8 := text.toByteArray.data.toList

theorem bytesOf_eq (text : String) : bytesOf text = encode text.toList := by
  rw [bytesOf, ← String.utf8Encode_toList, List.utf8Encode, List.toList_data_toByteArray, encode]

/-- **Exactly valid bytes can be read.** -/
theorem isValidUTF8_iff {bs : List UInt8} :
    bs.toByteArray.IsValidUTF8 ↔ ∃ s, decode? bs = some s := by
  simp only [decode?_eq_some_iff]
  constructor
  · rintro ⟨s, hs⟩
    refine ⟨s, ?_⟩
    rw [← List.toList_data_toByteArray (l := bs), hs, List.utf8Encode, List.toList_data_toByteArray,
      encode]
  · rintro ⟨s, rfl⟩
    exact ⟨s, rfl⟩

/-! ## Bytes of their own -/

/-- **A byte below `0x80` stands for its character** and is part of no other. -/
theorem Encodes.eq_singleton {c : Char} {head : List UInt8} {b : UInt8} (h : Encodes c head)
    (hb : b ∈ head) (hlt : b.toNat < 0x80) : head = [b] ∧ c.toNat = b.toNat := by
  cases h with
  | one ha hc =>
    obtain rfl := List.mem_singleton.1 hb
    exact ⟨rfl, hc⟩
  | two ha hb₁ | three ha hb₁ hb₂ | four ha hb₁ hb₂ hb₃ =>
    simp only [List.mem_cons, List.not_mem_nil, or_false, IsTail] at *
    obtain rfl | rfl | rfl | rfl := hb <;> omega

/-- **A byte below `0x80` is a byte of its character.** -/
theorem mem_of_mem_encode {c : Char} {b : UInt8} (hlt : b.toNat < 0x80) (hc : c.toNat = b.toNat)
    {s : List Char} (h : b ∈ encode s) : c ∈ s := by
  obtain ⟨d, hd, hb⟩ := List.mem_flatMap.1 h
  obtain ⟨-, hdb⟩ := (encodes_utf8EncodeChar d).eq_singleton hb hlt
  rwa [← Char.toNat_inj.1 (hc.trans hdb.symm)] at hd

theorem getLast?_of_getLast?_encode {c : Char} {b : UInt8} (hlt : b.toNat < 0x80)
    (hc : c.toNat = b.toNat) {s : List Char} (h : (encode s).getLast? = some b) :
    s.getLast? = some c := by
  rcases List.eq_nil_or_concat s with rfl | ⟨s, d, rfl⟩
  · simp [encode] at h
  · have hone : encode [d] = String.utf8EncodeChar d := List.flatMap_singleton _ _
    rw [List.concat_eq_append] at h ⊢
    rw [encode_append, hone, List.getLast?_append_of_ne_nil _ String.utf8EncodeChar_ne_nil] at h
    obtain ⟨-, hdb⟩ := (encodes_utf8EncodeChar d).eq_singleton (List.mem_of_getLast? h) hlt
    rw [List.getLast?_concat, Char.toNat_inj.1 (hc.trans hdb.symm)]

theorem encode_ne_nil {s : List Char} (h : s ≠ []) : encode s ≠ [] := by
  obtain ⟨c, s, rfl⟩ := List.exists_cons_of_ne_nil h
  rw [encode_cons]
  exact List.append_ne_nil_of_left_ne_nil String.utf8EncodeChar_ne_nil _

/-! ## The order of texts -/

/-- The smaller character has the smaller bytes, whatever follows them. -/
theorem Encodes.append_lt_append {c d : Char} {bs bs' : List UInt8} (h : Encodes c bs)
    (h' : Encodes d bs') (hlt : c.toNat < d.toNat) (s t : List UInt8) : bs ++ s < bs' ++ t := by
  -- the first byte decides if the numbers of bytes differ
  cases h with
  | one | two _ hb | three _ hb₁ hb₂ | four _ hb₁ hb₂ hb₃ =>
    cases h' with
    | one | two _ hb' | three _ hb₁' hb₂' | four _ hb₁' hb₂' hb₃' =>
      simp only [List.cons_append, List.nil_append, List.cons_lt_cons_iff, UInt8.lt_iff_toNat_lt,
        ← UInt8.toNat_inj]
      omega

theorem encode_lt_encode {s t : List Char} (h : s < t) : encode s < encode t := by
  induction s generalizing t with
  | nil =>
    cases t with
    | nil => exact absurd h (List.not_lt_nil _)
    | cons d t =>
      obtain ⟨b, bs, hbs⟩ := List.exists_cons_of_ne_nil (encode_ne_nil (List.cons_ne_nil d t))
      rw [hbs]
      exact List.nil_lt_cons b bs
  | cons c s ih =>
    cases t with
    | nil => exact absurd h (List.not_lt_nil _)
    | cons d t =>
      rw [encode_cons, encode_cons]
      rcases List.cons_lt_cons_iff.1 h with hlt | ⟨rfl, hlt⟩
      · exact (encodes_utf8EncodeChar c).append_lt_append (encodes_utf8EncodeChar d) hlt _ _
      · exact List.append_left_lt (ih hlt)

/-- **Strings are in the order of their bytes.** -/
theorem bytesOf_lt_iff {s t : String} : bytesOf s < bytesOf t ↔ s < t := by
  rw [bytesOf_eq, bytesOf_eq]
  constructor
  · intro h
    by_contra hlt
    rw [String.lt_iff, List.not_lt] at hlt
    rcases List.le_iff_lt_or_eq.1 hlt with hlt | heq
    · exact List.lt_asymm h (encode_lt_encode hlt)
    · exact List.lt_irrefl _ (heq ▸ h)
  · intro h
    exact encode_lt_encode (String.lt_iff.1 h)

theorem bytesOf_le_iff {s t : String} : bytesOf s ≤ bytesOf t ↔ s ≤ t := by
  rw [← List.not_lt, ← String.not_lt, bytesOf_lt_iff]

end InfraEvidence.Text
