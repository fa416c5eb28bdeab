import TracePilot.Library.Layout
import TracePilot.Values.Readback

/-!
# What the text of an address denotes

`addressBytes` reads the notation of addresses: four decimal octets, or eight hexadecimal groups of
which the zeros at one `::` are left out and the last two may be written as four decimal octets.

**`addressBytes_ipv4Text`**, **`addressBytes_inetText_v6`** — the texts of `inet_ntoa` and
`inet_ntop` denote the bytes they were made from.
-/

namespace TracePilot

open Layout

/-! ## Numbers -/

/-- The value of a hexadecimal digit. -/
def hexDigitValue (c : Char) : ℕ := if c.isDigit then c.toNat - 48 else c.toLower.toNat - 87

/-- The value of a hexadecimal text. -/
def hexNumber (text : List Char) : ℕ := text.foldl (fun n c => 16 * n + hexDigitValue c) 0

/-- The value of a decimal text. -/
def decimalNumber (text : List Char) : ℕ := Nat.ofDigitChars 10 text 0

lemma hexNumber_toDigits (n : ℕ) : hexNumber (Nat.toDigits 16 n) = n := by
  have hdigit : ∀ m < 16, hexDigitValue (Nat.digitChar m) = m := by decide
  induction n using Nat.strong_induction_on with
  | _ n ih =>
      rw [Nat.toDigits_eq_if (by norm_num)]
      split_ifs with h
      · simp [hexNumber, hdigit n h]
      · have hhigh := ih (n / 16) (Nat.div_lt_self (by omega) (by norm_num))
        rw [hexNumber] at hhigh
        rw [hexNumber, List.foldl_append, hhigh, List.foldl_cons, List.foldl_nil,
          hdigit _ (Nat.mod_lt n (by norm_num))]
        omega

/-! ## Reading an address -/

/-- Numbers between dots. -/
def octets (text : List Char) : List ℕ := (text.splitOn '.').map decimalNumber

/-- The groups a piece between colons stands for: one, or two that are written as four octets. -/
def pieceGroups (piece : List Char) : List ℕ :=
  if '.' ∈ piece then
    match octets piece with
    | [a, b, c, d] => [256 * a + b, 256 * c + d]
    | _ => []
  else [hexNumber piece]

/-- The eight groups of an address, with zeros where `::` stands. -/
def addressGroups (text : String) : List ℕ :=
  let before := (leadingPieces text).flatMap pieceGroups
  let after := (trailingPieces text).flatMap pieceGroups
  before ++ List.replicate (8 - (before.length + after.length)) 0 ++ after

/-- **The bytes that an address text denotes**, in network order. -/
def addressBytes (text : String) : List Byte :=
  if ':' ∈ text.toList then (addressGroups text).flatMap (Endian.big.bytes 2)
  else (octets text.toList).map (BitVec.ofNat 8)

example : addressBytes "2001:db8::25"
    = [0x20, 0x01, 0x0d, 0xb8, 0, 0, 0, 0, 0, 0, 0, 0, 0, 0, 0, 0x25] := by decide +kernel
example : addressBytes "::ffff:8.8.4.4"
    = [0, 0, 0, 0, 0, 0, 0, 0, 0, 0, 0xff, 0xff, 8, 8, 4, 4] := by decide +kernel

/-! ## Texts of IPv4 addresses -/

lemma octets_ipv4Text (k : ℕ) :
    octets (ipv4Text k).toList = (List.range 4).map fun i => k / 256 ^ (3 - i) % 256 := by
  rw [octets, splitOn_ipv4Text, List.map_map]
  refine List.map_congr_left fun i _ => ?_
  exact Nat.ofDigitChars_ten_toDigits

lemma ofNat_mod (n : ℕ) : BitVec.ofNat 8 (n % 256) = BitVec.ofNat 8 n := by
  refine BitVec.eq_of_toNat_eq ?_
  simp [BitVec.toNat_ofNat]

/-- **A dotted text denotes its four bytes.** -/
lemma addressBytes_ipv4Text (k : ℕ) : addressBytes (ipv4Text k) = Endian.big.bytes 4 k := by
  rw [addressBytes, if_neg (colon_not_mem_ipv4Text k), octets_ipv4Text, Endian.bytes_big,
    List.map_map]
  exact List.map_congr_left fun i _ => ofNat_mod _

/-- Four octets as the end of an IPv6 address. -/
lemma pieceGroups_ipv4Text (k : ℕ) :
    pieceGroups (ipv4Text k).toList = [k / 65536 % 65536, k % 65536] := by
  have hoctets : octets (ipv4Text k).toList
      = [k / 256 ^ 3 % 256, k / 256 ^ 2 % 256, k / 256 ^ 1 % 256, k / 256 ^ 0 % 256] :=
    octets_ipv4Text k
  rw [pieceGroups, if_pos (dot_mem_ipv4Text k), hoctets]
  simp only [List.cons.injEq, and_true]
  omega

/-! ## Texts of IPv6 addresses -/

lemma length_hextets (bits : ℕ) : (hextets bits).length = 8 := by simp [hextets]

/-- The groups, two bytes each, are the bytes of the address. -/
lemma flatMap_hextets (bits : ℕ) :
    (hextets bits).flatMap (Endian.big.bytes 2) = Endian.big.bytes 16 bits := by
  have hpair : ∀ i, Endian.big.bytes 2 (bits / 65536 ^ i % 65536)
      = [BitVec.ofNat 8 (bits / 256 ^ (2 * i + 1)), BitVec.ofNat 8 (bits / 256 ^ (2 * i))] := by
    intro i
    have hhigh : bits / 65536 ^ i % 65536 / 256 = bits / 256 ^ (2 * i + 1) % 256 := by
      rw [pow_succ, ← Nat.div_div_eq_div_mul, pow_mul]
      norm_num
      omega
    have hlow : BitVec.ofNat 8 (bits / 65536 ^ i % 65536) = BitVec.ofNat 8 (bits / 256 ^ (2 * i)) := by
      rw [pow_mul, ← ofNat_mod, ← ofNat_mod (_ / _)]
      norm_num
    rw [Endian.bytes_big]
    simp only [List.range_succ, List.range_zero, List.nil_append, List.map_cons,
      List.map_nil, List.cons_append]
    norm_num
    rw [hhigh, ofNat_mod]
    exact ⟨rfl, hlow⟩
  rw [hextets, List.flatMap_map]
  simp only [hpair]
  rw [Endian.bytes_big]
  rfl

/-- Pieces without a dot are groups. -/
lemma flatMap_pieceGroups {pieces : List (List Char)} (h : ∀ piece ∈ pieces, '.' ∉ piece) :
    pieces.flatMap pieceGroups = pieces.map hexNumber := by
  rw [← List.flatMap_pure_eq_map]
  refine List.flatMap_congr fun piece hpiece => ?_
  rw [pieceGroups, if_neg (h piece hpiece)]
  rfl

lemma dot_not_mem_digits (groups : List ℕ) :
    ∀ piece ∈ groups.map (Nat.toDigits 16), '.' ∉ piece := by
  intro piece hpiece
  obtain ⟨group, -, rfl⟩ := List.mem_map.mp hpiece
  exact not_mem_toDigits (by norm_num) (by norm_num) (by decide) group

lemma map_hexNumber_digits (groups : List ℕ) :
    (groups.map (Nat.toDigits 16)).map hexNumber = groups := by
  rw [List.map_map]
  exact (List.map_congr_left fun group _ => hexNumber_toDigits group).trans (List.map_id _)

/-- **A compressed text denotes its groups.** -/
lemma addressGroups_compressHextets {groups : List ℕ} (hlength : groups.length = 8) :
    addressGroups (compressHextets groups) = groups := by
  have hread := readback_compressHextets hlength
  have hdot := dot_not_mem_digits groups
  rw [hread] at hdot
  have hbefore := flatMap_pieceGroups fun piece hpiece =>
    hdot piece (List.mem_append_left _ (List.mem_append_left _ hpiece))
  have hafter := flatMap_pieceGroups fun piece hpiece => hdot piece (List.mem_append_right _ hpiece)
  have hvalues := congrArg (List.map hexNumber) hread
  have hzero : hexNumber ['0'] = 0 := rfl
  rw [map_hexNumber_digits, List.map_append, List.map_append, List.map_replicate, hzero] at hvalues
  rw [addressGroups, hbefore, hafter, List.length_map, List.length_map]
  exact hvalues.symm

/-- A text that ends in four octets after zeros and further groups. -/
lemma addressGroups_dotted (groups : List ℕ) (hgroups : groups.length ≤ 6) (k : ℕ) :
    addressGroups ("::" ++ ":".intercalate (groups.map hextetText ++ [ipv4Text k]))
      = List.replicate (6 - groups.length) 0 ++ groups ++ [k / 65536 % 65536, k % 65536] := by
  have htexts : GroupTexts (groups.map hextetText ++ [ipv4Text k]) := by
    intro s hs
    rcases List.mem_append.mp hs with hs | hs
    · obtain ⟨group, -, rfl⟩ := List.mem_map.mp hs
      exact ⟨hextetText_ne_nil group, colon_not_mem_hextetText group⟩
    · rw [List.mem_singleton.mp hs]
      exact ⟨List.ne_nil_of_mem (dot_mem_ipv4Text k), colon_not_mem_ipv4Text k⟩
  obtain ⟨hlead, htrail⟩ :=
    leadingPieces_compressed (show GroupTexts [] by simp [GroupTexts]) htexts
  rw [String.intercalate_nil, String.empty_append] at hlead htrail
  have hpieces : ((groups.map hextetText ++ [ipv4Text k]).map String.toList).flatMap pieceGroups
      = groups ++ [k / 65536 % 65536, k % 65536] := by
    have hdigits : (groups.map hextetText).map String.toList = groups.map (Nat.toDigits 16) := by
      simp [hextetText, Function.comp_def]
    rw [List.map_append, List.flatMap_append, hdigits, flatMap_pieceGroups (dot_not_mem_digits groups),
      map_hexNumber_digits]
    simp [pieceGroups_ipv4Text]
  rw [addressGroups, hlead, htrail, hpieces]
  have hmissing : 8 - (groups.length + 2) = 6 - groups.length := by omega
  simp [hmissing]

/-- A run of zeros at the start of the groups. -/
lemma ZeroRun.groups {bits len : ℕ} (h : ZeroRun (hextets bits) 0 len) :
    hextets bits = List.replicate len 0 ++ (hextets bits).drop len := by
  have heq := h.eq_append
  rwa [List.take_zero, List.nil_append, Nat.zero_add] at heq

lemma colon_mem_compressHextets {groups : List ℕ} (hlength : groups.length = 8) :
    ':' ∈ (compressHextets groups).toList := by
  unfold compressHextets
  dsimp only
  split_ifs
  · simp
  · match groups, hlength with
    | g :: g' :: rest, _ =>
      rw [List.map_cons, List.map_cons, String.intercalate_cons_cons]
      simp

/-- **The text of `inet_ntop` denotes its groups.** -/
lemma addressGroups_inetText (bits : BitVec 128) :
    addressGroups (IpAddress.v6 bits).inetText = hextets bits.toNat
      ∧ ':' ∈ (IpAddress.v6 bits).inetText.toList := by
  have hrun := zeroRun_longest (hextets bits.toNat)
  have hlast : ∀ n : ℕ, [n % 4294967296 / 65536 % 65536, n % 4294967296 % 65536]
      = (hextets n).drop 6 := by
    intro n
    have hdrop : (hextets n).drop 6 = [n / 65536 ^ 1 % 65536, n / 65536 ^ 0 % 65536] := rfl
    rw [hdrop]
    simp only [List.cons.injEq, and_true]
    omega
  rcases hfound : longestZeroRun (hextets bits.toNat) with ⟨start, len⟩
  rw [hfound] at hrun
  simp only [IpAddress.inetText, hfound]
  split_ifs with hsix hfive
  · obtain ⟨rfl, rfl⟩ := hsix
    have hgroups := addressGroups_dotted [] (by simp) (bits.toNat % 4294967296)
    rw [hlast] at hgroups
    rw [hrun.groups]
    exact ⟨by simpa using hgroups, by simp⟩
  · obtain ⟨rfl, rfl, hmapped⟩ := hfive
    have hgroups := addressGroups_dotted [65535] (by simp) (bits.toNat % 4294967296)
    rw [hlast] at hgroups
    have hdrop : (hextets bits.toNat).drop 5 = 65535 :: (hextets bits.toNat).drop 6 := by
      have hsplit : (hextets bits.toNat).drop 5
          = (hextets bits.toNat).getD 5 0 :: (hextets bits.toNat).drop 6 := rfl
      rw [hsplit, hmapped]
    have htext : "::ffff:" ++ ipv4Text (bits.toNat % 4294967296)
        = "::" ++ ":".intercalate ([65535].map hextetText
          ++ [ipv4Text (bits.toNat % 4294967296)]) := by
      have hffff : hextetText 65535 = "ffff" := by decide
      have hprefix : "::ffff:" = "::" ++ ("ffff" ++ ":") := rfl
      rw [List.map_singleton, hffff, List.singleton_append, String.intercalate_cons_cons,
        String.intercalate_singleton, hprefix, String.append_assoc]
    rw [hrun.groups, hdrop, htext]
    exact ⟨by simpa using hgroups, by simp⟩
  · exact ⟨addressGroups_compressHextets (length_hextets _),
      colon_mem_compressHextets (length_hextets _)⟩

/-- **The text of an address denotes its bytes.** -/
theorem addressBytes_inetText_v6 (bits : BitVec 128) :
    addressBytes (IpAddress.v6 bits).inetText = Endian.big.bytes 16 bits.toNat := by
  obtain ⟨hgroups, hcolon⟩ := addressGroups_inetText bits
  rw [addressBytes, if_pos hcolon, hgroups, flatMap_hextets]

end TracePilot
