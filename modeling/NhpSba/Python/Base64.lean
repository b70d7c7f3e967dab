import NhpSba.Python.Value
import Mathlib.Data.List.DropRight
/-!
# Python's `base64` module

`b64decode` without `validate` is lenient: it skips every character outside
the alphabet, stops at the first padding that completes a quad, and fails
only on a string that breaks off inside a quad. Text goes in as its list of
characters.

What the encoder writes the decoder reads back (`b64decode_b64encode`,
`urlsafeB64decode_urlsafeB64encode`), also after the padding was stripped
and restored, as it is in compact tokens (`restorePadding_stripPadding`).
-/

namespace NhpSba

namespace Base64

/-- The value of a character of the standard alphabet. -/
def sextet? (c : Char) : Option ℕ :=
  if 'A' ≤ c ∧ c ≤ 'Z' then some (c.toNat - 'A'.toNat)
  else if 'a' ≤ c ∧ c ≤ 'z' then some (c.toNat - 'a'.toNat + 26)
  else if '0' ≤ c ∧ c ≤ '9' then some (c.toNat - '0'.toNat + 52)
  else if c = '+' then some 62
  else if c = '/' then some 63
  else none

/-- The loop of `binascii.a2b_base64`: the position in the quad, the bits
left over from the last character, the padding seen since, and the bytes
decoded so far. -/
def a2bLoop : List Char → ℕ → ℕ → ℕ → Bytes → Except String Bytes
  | [], 0, _, _, out => .ok out
  | [], 1, _, _, out =>
    let count := out.length / 3 * 4 + 1
    .error s!"Invalid base64-encoded string: number of data characters ({count}) cannot be 1 more than a multiple of 4"
  | [], _, _, _, _ => .error "Incorrect padding"
  | c :: cs, quad, left, pads, out =>
    if c = '=' then
      if 2 ≤ quad then
        -- a pad that completes the quad ends the input
        if 4 ≤ quad + (pads + 1) then .ok out else a2bLoop cs quad left (pads + 1) out
      else a2bLoop cs quad left pads out
    else
      match sextet? c with
      | none => a2bLoop cs quad left pads out
      | some v =>
        match quad with
        | 0 => a2bLoop cs 1 v 0 out
        | 1 => a2bLoop cs 2 (v % 16) 0 (out ++ [UInt8.ofNat (left * 4 + v / 16)])
        | 2 => a2bLoop cs 3 (v % 4) 0 (out ++ [UInt8.ofNat (left * 16 + v / 4)])
        | _ => a2bLoop cs 0 0 0 (out ++ [UInt8.ofNat (left * 64 + v)])

/-- `base64.b64decode(s)` of a `str`, or the text of the `ValueError` it
raises. -/
def b64decode (s : List Char) : Except String Bytes :=
  if s.all (fun c => c.toNat < 128) then a2bLoop s 0 0 0 []
  else .error "string argument should contain only ASCII characters"

/-- `base64.urlsafe_b64decode(s)` of a `str`. -/
def urlsafeB64decode (s : List Char) : Except String Bytes :=
  b64decode (s.map fun c => if c = '-' then '+' else if c = '_' then '/' else c)

/-- The character of a sextet. -/
def alphabetChar (v : ℕ) : Char :=
  if v < 26 then Char.ofNat ('A'.toNat + v)
  else if v < 52 then Char.ofNat ('a'.toNat + (v - 26))
  else if v < 62 then Char.ofNat ('0'.toNat + (v - 52))
  else if v = 62 then '+'
  else '/'

/-- `base64.b64encode(b)`. -/
def b64encode : Bytes → List Char
  | [] => []
  | [a] =>
    [alphabetChar (a.toNat / 4), alphabetChar (a.toNat % 4 * 16), '=', '=']
  | [a, b] =>
    [alphabetChar (a.toNat / 4), alphabetChar (a.toNat % 4 * 16 + b.toNat / 16),
      alphabetChar (b.toNat % 16 * 4), '=']
  | a :: b :: c :: rest =>
    alphabetChar (a.toNat / 4) :: alphabetChar (a.toNat % 4 * 16 + b.toNat / 16) ::
      alphabetChar (b.toNat % 16 * 4 + c.toNat / 64) :: alphabetChar (c.toNat % 64) ::
        b64encode rest

/-- `base64.urlsafe_b64encode(b)`. -/
def urlsafeB64encode (b : Bytes) : List Char :=
  (b64encode b).map fun c => if c = '+' then '-' else if c = '/' then '_' else c

/-- `s.rstrip("=")`. -/
def stripPadding (s : List Char) : List Char := s.rdropWhile (· = '=')

/-- Pad to a multiple of four characters. -/
def restorePadding (s : List Char) : List Char :=
  if s.length % 4 ≠ 0 then s ++ List.replicate (4 - s.length % 4) '=' else s

/-! ## Round trip -/

/-- The alphabet: each sextet has its own ASCII character, which is no
padding, no dot and none of the two characters of the other alphabet. -/
theorem alphabetChar_spec : ∀ v < 64, sextet? (alphabetChar v) = some v ∧
    (alphabetChar v).toNat < 128 ∧ alphabetChar v ∉ ['=', '.', '-', '_'] := by
  decide +kernel

section Loop

variable {v : ℕ} (hv : v < 64) (cs : List Char) (left pads : ℕ) (out : Bytes)

include hv

/-- A character of the alphabet is no padding and is not skipped. -/
theorem a2bLoop_alphabetChar (quad : ℕ) :
    a2bLoop (alphabetChar v :: cs) quad left pads out =
      match quad with
      | 0 => a2bLoop cs 1 v 0 out
      | 1 => a2bLoop cs 2 (v % 16) 0 (out ++ [UInt8.ofNat (left * 4 + v / 16)])
      | 2 => a2bLoop cs 3 (v % 4) 0 (out ++ [UInt8.ofNat (left * 16 + v / 4)])
      | _ => a2bLoop cs 0 0 0 (out ++ [UInt8.ofNat (left * 64 + v)]) := by
  obtain ⟨hsextet, -, hne⟩ := alphabetChar_spec v hv
  have hpad : alphabetChar v ≠ '=' := fun h => hne (h ▸ by simp)
  rw [a2bLoop, if_neg hpad, hsextet]

theorem a2bLoop_first :
    a2bLoop (alphabetChar v :: cs) 0 left pads out = a2bLoop cs 1 v 0 out :=
  a2bLoop_alphabetChar hv ..

theorem a2bLoop_second : a2bLoop (alphabetChar v :: cs) 1 left pads out =
    a2bLoop cs 2 (v % 16) 0 (out ++ [UInt8.ofNat (left * 4 + v / 16)]) :=
  a2bLoop_alphabetChar hv ..

theorem a2bLoop_third : a2bLoop (alphabetChar v :: cs) 2 left pads out =
    a2bLoop cs 3 (v % 4) 0 (out ++ [UInt8.ofNat (left * 16 + v / 4)]) :=
  a2bLoop_alphabetChar hv ..

theorem a2bLoop_fourth : a2bLoop (alphabetChar v :: cs) 3 left pads out =
    a2bLoop cs 0 0 0 (out ++ [UInt8.ofNat (left * 64 + v)]) :=
  a2bLoop_alphabetChar hv ..

end Loop

/-- A full quad decodes to its three bytes. -/
theorem a2bLoop_quad (a b c : UInt8) (cs : List Char) (out : Bytes) :
    a2bLoop (alphabetChar (a.toNat / 4) :: alphabetChar (a.toNat % 4 * 16 + b.toNat / 16) ::
      alphabetChar (b.toNat % 16 * 4 + c.toNat / 64) :: alphabetChar (c.toNat % 64) :: cs)
        0 0 0 out = a2bLoop cs 0 0 0 (out ++ [a, b, c]) := by
  have ha := a.toNat_lt
  have hb := b.toNat_lt
  have hc := c.toNat_lt
  rw [a2bLoop_first (by omega), a2bLoop_second (by omega), a2bLoop_third (by omega),
    a2bLoop_fourth (by omega)]
  have h1 : a.toNat / 4 * 4 + (a.toNat % 4 * 16 + b.toNat / 16) / 16 = a.toNat := by omega
  have h2 : (a.toNat % 4 * 16 + b.toNat / 16) % 16 * 16 +
      (b.toNat % 16 * 4 + c.toNat / 64) / 4 = b.toNat := by omega
  have h3 : (b.toNat % 16 * 4 + c.toNat / 64) % 4 * 64 + c.toNat % 64 = c.toNat := by omega
  simp only [h1, h2, h3, UInt8.ofNat_toNat, List.append_assoc, List.cons_append, List.nil_append]

/-- Padding in front of a quad is skipped. -/
theorem a2bLoop_pads (n left pads : ℕ) (out : Bytes) :
    a2bLoop (List.replicate n '=') 0 left pads out = .ok out := by
  induction n with
  | zero => rfl
  | succ n ih =>
    rw [List.replicate_succ, a2bLoop, if_pos rfl, if_neg (by omega)]
    exact ih

/-- The loop reads an encoding back, whatever padding comes after it. -/
theorem a2bLoop_b64encode (bs : Bytes) (n : ℕ) (out : Bytes) :
    a2bLoop (b64encode bs ++ List.replicate n '=') 0 0 0 out = .ok (out ++ bs) := by
  induction bs using b64encode.induct generalizing out with
  | case1 => rw [b64encode, List.nil_append, a2bLoop_pads, List.append_nil]
  | case2 a =>
    -- the second pad completes the quad, so what follows is not read
    have ha := a.toNat_lt
    have h1 : a.toNat / 4 * 4 + a.toNat % 4 * 16 / 16 = a.toNat := by omega
    simp only [b64encode, List.cons_append]
    rw [a2bLoop_first (by omega), a2bLoop_second (by omega), h1, UInt8.ofNat_toNat]
    rfl
  | case3 a b =>
    have ha := a.toNat_lt
    have hb := b.toNat_lt
    have h1 : a.toNat / 4 * 4 + (a.toNat % 4 * 16 + b.toNat / 16) / 16 = a.toNat := by omega
    have h2 : (a.toNat % 4 * 16 + b.toNat / 16) % 16 * 16 + b.toNat % 16 * 4 / 4 = b.toNat := by
      omega
    simp only [b64encode, List.cons_append]
    rw [a2bLoop_first (by omega), a2bLoop_second (by omega), a2bLoop_third (by omega),
      h1, h2, UInt8.ofNat_toNat, UInt8.ofNat_toNat, List.append_assoc]
    rfl
  | case4 a b c rest ih =>
    simp only [b64encode, List.cons_append]
    rw [a2bLoop_quad, ih]
    simp

/-- What the encoder writes: characters of the alphabet, then up to two of
padding, in whole quads. -/
theorem b64encode_shape (bs : Bytes) :
    ∃ body pads, b64encode bs = body ++ List.replicate pads '=' ∧ pads < 3 ∧
      (body.length + pads) % 4 = 0 ∧ ∀ c ∈ body, ∃ v < 64, c = alphabetChar v := by
  induction bs using b64encode.induct with
  | case1 => exact ⟨[], 0, rfl, by omega, rfl, by simp⟩
  | case2 a =>
    have ha := a.toNat_lt
    -- one byte is left: two characters and two pads
    refine ⟨[_, _], 2, rfl, by omega, by simp, ?_⟩
    simp only [List.mem_cons, List.not_mem_nil, or_false, forall_eq_or_imp, forall_eq]
    exact ⟨⟨_, by omega, rfl⟩, ⟨_, by omega, rfl⟩⟩
  | case3 a b =>
    have ha := a.toNat_lt
    have hb := b.toNat_lt
    -- two bytes are left: three characters and one pad
    refine ⟨[_, _, _], 1, rfl, by omega, by simp, ?_⟩
    simp only [List.mem_cons, List.not_mem_nil, or_false, forall_eq_or_imp, forall_eq]
    exact ⟨⟨_, by omega, rfl⟩, ⟨_, by omega, rfl⟩, ⟨_, by omega, rfl⟩⟩
  | case4 a b c rest ih =>
    have ha := a.toNat_lt
    have hb := b.toNat_lt
    have hc := c.toNat_lt
    obtain ⟨body, pads, heq, hpads, hlen, hbody⟩ := ih
    rw [b64encode, heq]
    refine ⟨_ :: _ :: _ :: _ :: body, pads, rfl, hpads, ?_, ?_⟩
    · simp only [List.length_cons]
      omega
    · simp only [List.mem_cons, forall_eq_or_imp]
      exact ⟨⟨_, by omega, rfl⟩, ⟨_, by omega, rfl⟩, ⟨_, by omega, rfl⟩, ⟨_, by omega, rfl⟩, hbody⟩

/-- Four characters for three bytes, or for what is left of them. -/
theorem length_b64encode (bs : Bytes) : (b64encode bs).length = (bs.length + 2) / 3 * 4 := by
  induction bs using b64encode.induct with
  | case1 => rfl
  | case2 a => simp [b64encode]
  | case3 a b => simp [b64encode]
  | case4 a b c rest ih =>
    simp only [b64encode, List.length_cons, ih]
    omega

/-- What is encoded is decoded, with more padding than it needs or not. -/
theorem b64decode_b64encode_pads (bs : Bytes) (n : ℕ) :
    b64decode (b64encode bs ++ List.replicate n '=') = .ok bs := by
  have hascii : (b64encode bs ++ List.replicate n '=').all (fun c => c.toNat < 128) = true := by
    obtain ⟨body, pads, heq, -, -, hbody⟩ := b64encode_shape bs
    rw [heq, List.append_assoc, List.replicate_append_replicate, List.all_append, Bool.and_eq_true,
      List.all_eq_true, List.all_eq_true]
    refine ⟨fun c hc => ?_, fun c hc => ?_⟩
    · obtain ⟨v, hv, rfl⟩ := hbody c hc
      exact decide_eq_true (alphabetChar_spec v hv).2.1
    · rw [List.eq_of_mem_replicate hc]
      decide
  rw [b64decode, if_pos hascii, a2bLoop_b64encode, List.nil_append]

/-- **What is encoded is decoded.** -/
theorem b64decode_b64encode (bs : Bytes) : b64decode (b64encode bs) = .ok bs := by
  have h := b64decode_b64encode_pads bs 0
  rwa [List.replicate_zero, List.append_nil] at h

/-- Where the body of an encoding holds alphabet characters only, so does
its URL-safe form, up to the two characters exchanged. -/
theorem urlsafeB64encode_shape (bs : Bytes) :
    ∃ body pads, urlsafeB64encode bs = body ++ List.replicate pads '=' ∧ pads < 3 ∧
      (body.length + pads) % 4 = 0 ∧ ∀ c ∈ body, c ≠ '=' ∧ c ≠ '.' := by
  obtain ⟨body, pads, heq, hpads, hlen, hbody⟩ := b64encode_shape bs
  refine ⟨body.map fun c => if c = '+' then '-' else if c = '/' then '_' else c, pads, ?_, hpads,
    by rwa [List.length_map], fun c hc => ?_⟩
  · rw [urlsafeB64encode, heq, List.map_append, List.map_replicate]
    rfl
  · obtain ⟨c', hc', rfl⟩ := List.mem_map.1 hc
    obtain ⟨v, hv, rfl⟩ := hbody c' hc'
    have hne := (alphabetChar_spec v hv).2.2
    simp only [List.mem_cons, List.not_mem_nil, or_false, not_or] at hne
    split
    · decide
    · split
      · decide
      · exact ⟨hne.1, hne.2.1⟩

theorem dot_not_mem_urlsafeB64encode (bs : Bytes) : '.' ∉ urlsafeB64encode bs := by
  obtain ⟨body, pads, heq, -, -, hbody⟩ := urlsafeB64encode_shape bs
  intro hmem
  rw [heq] at hmem
  rcases List.mem_append.1 hmem with hmem | hmem
  · exact (hbody _ hmem).2 rfl
  · exact absurd (List.eq_of_mem_replicate hmem) (by decide)

/-- The two alphabets are exchanged and back again. -/
theorem urlsafeB64encode_exchange (bs : Bytes) :
    (urlsafeB64encode bs).map (fun c => if c = '-' then '+' else if c = '_' then '/' else c) =
      b64encode bs := by
  rw [urlsafeB64encode, List.map_map]
  refine (List.map_congr_left fun c hc => ?_).trans (List.map_id _)
  -- neither character of the other alphabet is in an encoding
  have hne : c ≠ '-' ∧ c ≠ '_' := by
    obtain ⟨body, pads, heq, -, -, hbody⟩ := b64encode_shape bs
    rw [heq] at hc
    rcases List.mem_append.1 hc with hc | hc
    · obtain ⟨v, hv, rfl⟩ := hbody c hc
      have hne := (alphabetChar_spec v hv).2.2
      simp only [List.mem_cons, List.not_mem_nil, or_false, not_or] at hne
      exact hne.2.2
    · rw [List.eq_of_mem_replicate hc]
      decide
  by_cases hplus : c = '+'
  · simp [hplus]
  · by_cases hslash : c = '/'
    · simp [hslash]
    · simp [hplus, hslash, hne.1, hne.2]

/-- **What is encoded URL-safe is decoded**, with more padding than it
needs or not. -/
theorem urlsafeB64decode_pads (bs : Bytes) (n : ℕ) :
    urlsafeB64decode (urlsafeB64encode bs ++ List.replicate n '=') = .ok bs := by
  rw [urlsafeB64decode, List.map_append, urlsafeB64encode_exchange, List.map_replicate]
  exact b64decode_b64encode_pads bs n

theorem urlsafeB64decode_urlsafeB64encode (bs : Bytes) :
    urlsafeB64decode (urlsafeB64encode bs) = .ok bs := by
  have h := urlsafeB64decode_pads bs 0
  rwa [List.replicate_zero, List.append_nil] at h

/-- The padding is all that is stripped. -/
theorem stripPadding_append {body : List Char} (hbody : ∀ c ∈ body, c ≠ '=') (pads : ℕ) :
    stripPadding (body ++ List.replicate pads '=') = body := by
  have hself : body.rdropWhile (fun c => decide (c = '=')) = body := by
    refine List.rdropWhile_eq_self_iff.2 fun hne => ?_
    simpa using hbody _ (List.getLast_mem hne)
  rw [stripPadding]
  induction pads with
  | zero => rw [List.replicate_zero, List.append_nil, hself]
  | succ n ih =>
    rw [List.replicate_succ', ← List.append_assoc, List.rdropWhile_concat_pos _ _ _ (by simp)]
    exact ih

/-- **Three characters of padding always do**, on an encoding that has been
stripped of its own. -/
theorem urlsafeB64decode_stripPadding (bs : Bytes) :
    urlsafeB64decode (stripPadding (urlsafeB64encode bs) ++ ['=', '=', '=']) = .ok bs := by
  obtain ⟨body, pads, heq, hpads, -, hbody⟩ := urlsafeB64encode_shape bs
  have hstrip : stripPadding (urlsafeB64encode bs) = body := by
    rw [heq]
    exact stripPadding_append (fun c hc => (hbody c hc).1) pads
  have hthree : body ++ ['=', '=', '='] = urlsafeB64encode bs ++ List.replicate (3 - pads) '=' := by
    rw [heq, List.append_assoc, List.replicate_append_replicate, Nat.add_sub_cancel' hpads.le]
    rfl
  rw [hstrip, hthree, urlsafeB64decode_pads]

/-- **Stripping the padding of an encoding loses nothing.** -/
theorem restorePadding_stripPadding (bs : Bytes) :
    restorePadding (stripPadding (urlsafeB64encode bs)) = urlsafeB64encode bs := by
  obtain ⟨body, pads, heq, hpads, hlen, hbody⟩ := urlsafeB64encode_shape bs
  have hstrip : stripPadding (urlsafeB64encode bs) = body := by
    rw [heq]
    exact stripPadding_append (fun c hc => (hbody c hc).1) pads
  rw [hstrip, restorePadding, heq]
  obtain rfl | rfl | rfl : pads = 0 ∨ pads = 1 ∨ pads = 2 := by omega
  · rw [if_neg (by omega), List.replicate_zero, List.append_nil]
  · rw [if_pos (by omega), show 4 - body.length % 4 = 1 by omega]
  · rw [if_pos (by omega), show 4 - body.length % 4 = 2 by omega]

end Base64

end NhpSba
