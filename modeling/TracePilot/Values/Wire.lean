import TracePilot.Values.Text

/-!
# Identifiers, addresses and instants, and their texts

Event ids, addresses and timestamps cross every boundary of the program as text: the collector
formats them, the API parses them, the tools format them again.  The types here are what the
texts denote, and `Uuid.str`, `IpAddress.str` and `Datetime.isoformat` are the standard
library's formatting.
-/

namespace TracePilot

/-! ## UUIDs -/

/-- A 128-bit identifier. -/
abbrev Uuid := BitVec 128

namespace Uuid

/-- The 32 hexadecimal digits, most significant first. -/
def hexDigits (u : Uuid) : List Char :=
  (List.range 32).map fun i => Nat.digitChar (u.toNat / 16 ^ (31 - i) % 16)

/-- `str(uuid)`: lower case, grouped 8-4-4-4-12. -/
def str (u : Uuid) : String :=
  let h := u.hexDigits
  String.ofList (h.take 8 ++ '-' :: ((h.drop 8).take 4 ++ '-' :: ((h.drop 12).take 4 ++
    '-' :: ((h.drop 16).take 4 ++ '-' :: h.drop 20))))

@[simp] lemma hexDigits_length (u : Uuid) : u.hexDigits.length = 32 := by simp [hexDigits]

/-- The text of an identifier holds hexadecimal digits and dashes only. -/
lemma mem_str {u : Uuid} {c : Char} (hc : c ∈ u.str.toList) :
    c = '-' ∨ ∃ n < 16, c = Nat.digitChar n := by
  have hd : ∀ c ∈ u.hexDigits, ∃ n < 16, c = Nat.digitChar n := by
    intro c hc
    obtain ⟨i, -, rfl⟩ := List.mem_map.mp hc
    exact ⟨_, Nat.mod_lt _ (by norm_num), rfl⟩
  have htake : ∀ {n m : ℕ}, c ∈ (u.hexDigits.drop n).take m → c ∈ u.hexDigits :=
    fun h => List.mem_of_mem_drop (List.mem_of_mem_take h)
  simp only [str, String.toList_ofList, List.mem_append, List.mem_cons] at hc
  rcases hc with h | rfl | h | rfl | h | rfl | h | rfl | h
  · exact Or.inr (hd c (List.mem_of_mem_take h))
  · exact Or.inl rfl
  · exact Or.inr (hd c (htake h))
  · exact Or.inl rfl
  · exact Or.inr (hd c (htake h))
  · exact Or.inl rfl
  · exact Or.inr (hd c (htake h))
  · exact Or.inl rfl
  · exact Or.inr (hd c (List.mem_of_mem_drop h))

/-- So any column can store it. -/
lemma noNul_str (u : Uuid) : noNul u.str = true := by
  simp only [noNul, List.all_eq_true, decide_eq_true_eq]
  intro c hc
  rcases mem_str hc with rfl | ⟨n, hn, rfl⟩
  · decide
  · exact digitChar_ne_nul hn

@[simp] lemma length_str (u : Uuid) : u.str.toList.length = 36 := by simp [str]

/-- The digits are what is left of the text without the dashes. -/
lemma filter_str (u : Uuid) : u.str.toList.filter (fun c => c ≠ '-') = u.hexDigits := by
  have hkeep : u.hexDigits.filter (fun c => c ≠ '-') = u.hexDigits := by
    refine List.filter_eq_self.mpr fun c hc => ?_
    obtain ⟨i, -, rfl⟩ := List.mem_map.mp hc
    simp
  have hjoin : u.hexDigits.take 8 ++ ((u.hexDigits.drop 8).take 4 ++ ((u.hexDigits.drop 12).take 4
      ++ ((u.hexDigits.drop 16).take 4 ++ u.hexDigits.drop 20))) = u.hexDigits := by
    have hstep : ∀ n m, (u.hexDigits.drop n).take m ++ u.hexDigits.drop (n + m)
        = u.hexDigits.drop n := by
      intro n m
      rw [← List.drop_drop, List.take_append_drop]
    rw [hstep 16 4, hstep 12 4, hstep 8 4, List.take_append_drop]
  calc u.str.toList.filter (fun c => c ≠ '-')
      = (u.hexDigits.take 8 ++ ((u.hexDigits.drop 8).take 4 ++ ((u.hexDigits.drop 12).take 4
          ++ ((u.hexDigits.drop 16).take 4 ++ u.hexDigits.drop 20)))).filter fun c => c ≠ '-' := by
        simp [str]
    _ = u.hexDigits := by rw [hjoin, hkeep]

/-- Numbers with the same last `k` digits are congruent. -/
lemma mod_pow_eq_of_digits {b m n : ℕ} :
    ∀ k, (∀ i < k, m / b ^ i % b = n / b ^ i % b) → m % b ^ k = n % b ^ k
  | 0, _ => by simp [Nat.mod_one]
  | k + 1, h => by
      rw [Nat.mod_pow_succ, Nat.mod_pow_succ, h k (Nat.lt_succ_self k),
        mod_pow_eq_of_digits k fun i hi => h i (Nat.lt_succ_of_lt hi)]

lemma hexDigits_injective {u v : Uuid} (h : u.hexDigits = v.hexDigits) : u = v := by
  have hdigit : ∀ m < 16, ∀ n < 16, Nat.digitChar m = Nat.digitChar n → m = n := by decide
  have hall : ∀ i < 32, u.toNat / 16 ^ i % 16 = v.toNat / 16 ^ i % 16 := by
    intro i hi
    have hchar := List.map_inj_left.mp h (31 - i) (List.mem_range.mpr (by omega))
    rw [show 31 - (31 - i) = i by omega] at hchar
    exact hdigit _ (Nat.mod_lt _ (by norm_num)) _ (Nat.mod_lt _ (by norm_num)) hchar
  have hmod := mod_pow_eq_of_digits 32 hall
  have hbound : ∀ w : Uuid, w.toNat < 16 ^ 32 := fun w => lt_of_lt_of_le w.isLt (by norm_num)
  rw [Nat.mod_eq_of_lt (hbound u), Nat.mod_eq_of_lt (hbound v)] at hmod
  exact BitVec.eq_of_toNat_eq hmod

/-- **Different identifiers have different texts.** -/
theorem str_injective : Function.Injective str := by
  intro u v h
  refine hexDigits_injective ?_
  rw [← filter_str, h, filter_str]

end Uuid

/-! ## IP addresses -/

/-- An address of either family, as the bits that go over the wire. -/
inductive IpAddress
  | v4 (bits : BitVec 32)
  | v6 (bits : BitVec 128)
  deriving DecidableEq

/-- The four decimal octets of an IPv4 address. -/
def ipv4Text (bits : ℕ) : String :=
  ".".intercalate ((List.range 4).map fun i => toString (bits / 256 ^ (3 - i) % 256))

/-- The eight 16-bit groups of an IPv6 address. -/
def hextets (bits : ℕ) : List ℕ := (List.range 8).map fun i => bits / 65536 ^ (7 - i) % 65536

/-- Start and length of the longest run of zero groups, the first of equals. -/
def longestZeroRun (groups : List ℕ) : ℕ × ℕ :=
  (groups.zipIdx.foldl
    (fun (start, len, best) (group, index) =>
      if group = 0 then
        let start := if len = 0 then index else start
        (start, len + 1, if best.2 < len + 1 then (start, len + 1) else best)
      else (0, 0, best))
    ((0, 0, (0, 0)) : ℕ × ℕ × ℕ × ℕ)).2.2

/-- Groups in hexadecimal, the longest run of at least two zero groups written as `::`. -/
def compressHextets (groups : List ℕ) : String :=
  let texts := groups.map fun group => String.ofList (Nat.toDigits 16 group)
  let (start, len) := longestZeroRun groups
  if 1 < len then
    ":".intercalate (texts.take start) ++ "::" ++ ":".intercalate (texts.drop (start + len))
  else ":".intercalate texts

/-- `str(address)`. -/
def IpAddress.str : IpAddress → String
  | .v4 bits => ipv4Text bits.toNat
  | .v6 bits => compressHextets (hextets bits.toNat)

/-- `inet_ntoa` and `inet_ntop`.  The C library writes an IPv6 address whose first six groups are
zero, or five zeros and `ffff`, with its last four bytes in decimal. -/
def IpAddress.inetText : IpAddress → String
  | .v4 bits => ipv4Text bits.toNat
  | .v6 bits =>
      let groups := hextets bits.toNat
      let (start, len) := longestZeroRun groups
      if start = 0 ∧ len = 6 then "::" ++ ipv4Text (bits.toNat % 4294967296)
      else if start = 0 ∧ len = 5 ∧ groups.getD 5 0 = 65535 then
        "::ffff:" ++ ipv4Text (bits.toNat % 4294967296)
      else compressHextets groups

/-- The text of an address holds digits and punctuation only. -/
lemma IpAddress.noNul_str (address : IpAddress) : noNul address.str = true := by
  cases address with
  | v4 bits =>
      refine noNul_intercalate (by decide) _ fun s hs => ?_
      obtain ⟨i, -, rfl⟩ := List.mem_map.mp hs
      exact noNul_toString _
  | v6 bits =>
      have htexts : ∀ s ∈ (hextets bits.toNat).map
          (fun group => String.ofList (Nat.toDigits 16 group)), noNul s = true := by
        intro s hs
        obtain ⟨group, -, rfl⟩ := List.mem_map.mp hs
        exact noNul_toDigits (by norm_num) (by norm_num) group
      have hcolon : noNul ":" = true := by decide
      simp only [IpAddress.str, compressHextets]
      split_ifs
      · simp only [noNul_append, Bool.and_eq_true]
        refine ⟨⟨noNul_intercalate hcolon _ fun s hs => ?_, by decide⟩,
          noNul_intercalate hcolon _ fun s hs => ?_⟩
        · exact htexts s (List.mem_of_mem_take hs)
        · exact htexts s (List.mem_of_mem_drop hs)
      · exact noNul_intercalate hcolon _ htexts

/-- `ip_version` of an address. -/
def IpAddress.version : IpAddress → ℤ
  | .v4 _ => 4
  | .v6 _ => 6

/-! ## Instants -/

/-- A Python `datetime`: microseconds since the epoch on its own wall clock, and the UTC offset
in seconds when it has one. -/
structure Datetime where
  wall : ℤ
  offset : Option ℤ
  deriving DecidableEq

namespace Datetime

/-- The aware `datetime` in UTC of an instant. -/
def utc (instant : ℤ) : Datetime := ⟨instant, some 0⟩

/-- The instant in microseconds since the epoch.  A naive value is read as local time, and the
container's clock runs on UTC. -/
def instant (d : Datetime) : ℤ := d.wall - d.offset.getD 0 * 1000000

/-- Year, month and day of a day number counted from the epoch (proleptic Gregorian). -/
def civil (day : ℤ) : ℕ × ℕ × ℕ :=
  let z := day + 719468
  let era := z / 146097
  let doe := z % 146097
  let yoe := (doe - doe / 1460 + doe / 36524 - doe / 146096) / 365
  let doy := doe - (365 * yoe + yoe / 4 - yoe / 100)
  let mp := (5 * doy + 2) / 153
  let month := if mp < 10 then mp + 3 else mp - 9
  ((yoe + era * 400 + if month ≤ 2 then 1 else 0).toNat, month.toNat,
    (doy - (153 * mp + 2) / 5 + 1).toNat)

/-- The offset part of an ISO text. -/
def isoOffset (seconds : ℤ) : String :=
  let n := seconds.natAbs
  (if seconds < 0 then "-" else "+") ++ padded 2 (n / 3600) ++ ":" ++ padded 2 (n / 60 % 60)
    ++ if n % 60 = 0 then "" else ":" ++ padded 2 (n % 60)

/-- `datetime.isoformat()`. -/
def isoformat (d : Datetime) : String :=
  let (year, month, day) := civil (d.wall / 86400000000)
  let us := (d.wall % 86400000000).toNat
  padded 4 year ++ "-" ++ padded 2 month ++ "-" ++ padded 2 day ++ "T"
    ++ padded 2 (us / 3600000000) ++ ":" ++ padded 2 (us / 60000000 % 60) ++ ":"
    ++ padded 2 (us / 1000000 % 60)
    ++ (if us % 1000000 = 0 then "" else "." ++ padded 6 (us % 1000000))
    ++ match d.offset with
      | some seconds => isoOffset seconds
      | none => ""

/-- The years 1 to 9999, which is what a `datetime` can hold. -/
def representable (wall : ℤ) : Prop :=
  -62135596800000000 ≤ wall ∧ wall < 253402300800000000

instance (wall : ℤ) : Decidable (representable wall) := by
  unfold representable
  infer_instance

/-- What the driver can send.  It takes a naive value for local time, and the conversion of local
time looks one day back, which fails on the first day of the year 1.  Midnight of that day is not
converted: it stands for `-infinity`. -/
def encodable (d : Datetime) : Prop :=
  representable d.instant
    ∧ (d.offset = none → d.wall = -62135596800000000 ∨ -62135510400000000 ≤ d.wall)

instance (d : Datetime) : Decidable d.encodable :=
  inferInstanceAs (Decidable (_ ∧ (_ → _)))

@[simp] lemma instant_utc (instant : ℤ) : (utc instant).instant = instant := by
  simp [Datetime.instant, utc]

lemma encodable_iff_of_offset {d : Datetime} (h : d.offset ≠ none) :
    d.encodable ↔ representable d.instant :=
  and_iff_left fun hnone => absurd hnone h

@[simp] lemma encodable_utc (instant : ℤ) : (utc instant).encodable ↔ representable instant := by
  rw [encodable_iff_of_offset (by simp [utc]), instant_utc]

lemma noNul_isoOffset (seconds : ℤ) : noNul (isoOffset seconds) = true := by
  have hplus : noNul "+" = true := by decide
  have hminus : noNul "-" = true := by decide
  have hcolon : noNul ":" = true := by decide
  have hempty : noNul "" = true := by decide
  unfold isoOffset
  simp only [noNul_append, noNul_padded]
  split_ifs <;> simp [hplus, hminus, hcolon, hempty, noNul_padded]

/-- The text of an instant holds digits and punctuation only, so any column can store it. -/
lemma noNul_isoformat (d : Datetime) : noNul d.isoformat = true := by
  have hdash : noNul "-" = true := by decide
  have hcolon : noNul ":" = true := by decide
  have ht : noNul "T" = true := by decide
  have hdot : noNul "." = true := by decide
  have hempty : noNul "" = true := by decide
  unfold isoformat
  simp only [noNul_append, noNul_padded, hdash, hcolon, ht, Bool.true_and]
  cases d.offset <;> split_ifs <;> simp [hdot, hempty, noNul_padded, noNul_isoOffset]

end Datetime

example : (Datetime.utc 1700000005000000).isoformat = "2023-11-14T22:13:25+00:00" := by decide
example : (IpAddress.v6 0x20010db8000000000000000000000025).str = "2001:db8::25" := by decide
example : (IpAddress.v6 0xffff08080808).inetText = "::ffff:8.8.8.8" := by decide

end TracePilot
