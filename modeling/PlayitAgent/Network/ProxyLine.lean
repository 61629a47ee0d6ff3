import PlayitAgent.Lib.Lines
import PlayitAgent.Lib.Text
import PlayitAgent.Network.ProxyCodec

/-!
# The line of the PROXY protocol

`Display` of `ProxyProtocolHeader` in `agent_core/src/network/proxy_protocol.rs`, the first version
of the header, with `Display` of the addresses in Rust's standard library. A line says all of the
header and where it ends, so that an origin can tell the line from what the player sends.
-/

namespace PlayitAgent

/-! ## The code -/

/-- `Display` of an unsigned integer. -/
def displayNat (n : ℕ) : List Char := Nat.toDigits 10 n

/-- `LowerHex` of an unsigned integer. -/
def lowerHex (n : ℕ) : List Char := Nat.toDigits 16 n

/-- `Ipv4Addr::octets`. -/
def Ipv4Addr.octets (ip : Ipv4Addr) : List UInt8 := beBytes 4 ip.toNat

/-- `Display` of `Ipv4Addr`. -/
def Ipv4Addr.display (ip : Ipv4Addr) : List Char :=
  ['.'].intercalate ((Ipv4Addr.octets ip).map fun octet => displayNat octet.toNat)

/-- `Ipv6Addr::segments`. -/
def Ipv6Addr.segments (ip : Ipv6Addr) : List ℕ :=
  [7, 6, 5, 4, 3, 2, 1, 0].map fun i => ip.toNat / 2 ^ (16 * i) % 2 ^ 16

/-- `Ipv6Addr::to_ipv4_mapped`. -/
def Ipv6Addr.toIpv4Mapped (ip : Ipv6Addr) : Option Ipv4Addr :=
  if ip.toNat / 2 ^ 32 = 0xffff then some (.ofNat ip.toNat) else none

/-- A run of segments. -/
structure Span where
  start : ℕ
  len : ℕ

/-- One turn of the loop that looks for the longest run of zeros, with the run that is the longest
so far and the one that may go on. -/
def Span.turn (spans : Span × Span) (segment : ℕ × ℕ) : Span × Span :=
  let (longest, current) := spans
  if segment.1 = 0 then
    let start := if current.len = 0 then segment.2 else current.start
    let current : Span := ⟨start, current.len + 1⟩
    (if longest.len < current.len then current else longest, current)
  else (longest, ⟨0, 0⟩)

/-- The longest run of zeros, the first one if there are several. -/
def longestZeroes (segments : List ℕ) : Span :=
  (segments.zipIdx.foldl Span.turn (⟨0, 0⟩, ⟨0, 0⟩)).1

/-- `fmt_subslice`. -/
def fmtSubslice (chunk : List ℕ) : List Char := [':'].intercalate (chunk.map lowerHex)

/-- `Display` of segments that are no mapped IPv4 address. -/
def displaySegments (segments : List ℕ) : List Char :=
  let zeroes := longestZeroes segments
  if 1 < zeroes.len then
    fmtSubslice (segments.take zeroes.start) ++ [':', ':'] ++
      fmtSubslice (segments.drop (zeroes.start + zeroes.len))
  else fmtSubslice segments

/-- `Display` of `Ipv6Addr`. -/
def Ipv6Addr.display (ip : Ipv6Addr) : List Char :=
  match Ipv6Addr.toIpv4Mapped ip with
  | some ipv4 => "::ffff:".toList ++ Ipv4Addr.display ipv4
  | none => displaySegments (Ipv6Addr.segments ip)

namespace ProxyProtocolHeader

/-- The words of the line, without its end. -/
def words : ProxyProtocolHeader → List (List Char)
  | afInet client_ip proxy_ip client_port proxy_port =>
    ["PROXY".toList, "TCP4".toList, Ipv4Addr.display client_ip, Ipv4Addr.display proxy_ip,
      displayNat client_port.toNat, displayNat proxy_port.toNat]
  | afInet6 client_ip proxy_ip client_port proxy_port =>
    ["PROXY".toList, "TCP6".toList, Ipv6Addr.display client_ip, Ipv6Addr.display proxy_ip,
      displayNat client_port.toNat, displayNat proxy_port.toNat]

/-- `Display` of `ProxyProtocolHeader`. -/
def display (header : ProxyProtocolHeader) : String :=
  String.ofList ([' '].intercalate header.words ++ ['\r', '\n'])

/-- `ProxyProtocolHeader::write_v1_tcp`. -/
def writeV1Tcp (header : ProxyProtocolHeader) : WriteM Unit := writeAll (utf8 header.display)

end ProxyProtocolHeader

/-! ## Numbers -/

/-- Two numbers below 16 have the same digit only when they are the same. -/
theorem digitChar_injOn {m n : ℕ} (hm : m < 16) (hn : n < 16)
    (h : Nat.digitChar m = Nat.digitChar n) : m = n := by
  have hall : ∀ m < 16, ∀ n < 16, Nat.digitChar m = Nat.digitChar n → m = n := by decide
  exact hall m hm n hn h

/-- The digits of a number determine it. -/
theorem toDigits_injective {b : ℕ} (hb : 1 < b) (hb' : b ≤ 16) : (Nat.toDigits b).Injective := by
  intro m
  induction m using Nat.strong_induction_on with
  | _ m ih =>
    intro n h
    rw [Nat.toDigits_eq_if hb, Nat.toDigits_eq_if (n := n) hb] at h
    split_ifs at h with hm hn hn
    · exact digitChar_injOn (by omega) (by omega) (by simpa using h)
    · -- One digit on the left, more than one on the right.
      have hlen := congrArg List.length h
      simp at hlen
    · have hlen := congrArg List.length h
      simp at hlen
    · obtain ⟨hrest, hlast⟩ := List.append_inj' h rfl
      have hdiv : m / b = n / b := ih (m / b) (Nat.div_lt_self (by omega) hb) hrest
      have hmodm := Nat.mod_lt m (show 0 < b by omega)
      have hmodn := Nat.mod_lt n (show 0 < b by omega)
      have hmod : m % b = n % b :=
        digitChar_injOn (by omega) (by omega) (by simpa using hlast)
      rw [← Nat.div_add_mod m b, ← Nat.div_add_mod n b, hdiv, hmod]

/-- A digit of a number stands for a number below the base. -/
theorem exists_of_mem_toDigits {b n : ℕ} {c : Char} (hb : 1 < b) (h : c ∈ Nat.toDigits b n) :
    ∃ d < b, c = Nat.digitChar d := by
  induction n using Nat.strong_induction_on with
  | _ n ih =>
    rw [Nat.toDigits_eq_if hb] at h
    split_ifs at h with hn
    · exact ⟨n, hn, by simpa using h⟩
    · rcases List.mem_append.1 h with h | h
      · exact ih (n / b) (Nat.div_lt_self (by omega) hb) h
      · exact ⟨n % b, Nat.mod_lt _ (by omega), by simpa using h⟩

/-- Something that no digit is does not stand in a number. -/
theorem not_mem_toDigits {b n : ℕ} {c : Char} (hb : 1 < b) (hb' : b ≤ 16)
    (hc : ∀ d < 16, Nat.digitChar d ≠ c) : c ∉ Nat.toDigits b n := by
  intro h
  obtain ⟨d, hd, rfl⟩ := exists_of_mem_toDigits hb h
  exact hc d (by omega) rfl

/-- Pieces that are joined by a separator that stands in none of them can be told apart. -/
theorem intercalate_inj {α : Type} [DecidableEq α] {sep : α} {pieces pieces' : List (List α)}
    (hsep : ∀ piece ∈ pieces, sep ∉ piece) (hsep' : ∀ piece ∈ pieces', sep ∉ piece)
    (hne : pieces ≠ []) (hne' : pieces' ≠ [])
    (h : [sep].intercalate pieces = [sep].intercalate pieces') : pieces = pieces' := by
  rw [← List.splitOn_intercalate sep hsep hne, h, List.splitOn_intercalate sep hsep' hne']

/-! ## IPv4 addresses -/

/-- The text of an IPv4 address determines it. -/
theorem Ipv4Addr.display_injective : Ipv4Addr.display.Injective := by
  intro ip ip' h
  have hdot : ∀ ip : Ipv4Addr, ∀ piece ∈ (Ipv4Addr.octets ip).map fun octet =>
      displayNat octet.toNat, '.' ∉ piece := by
    intro ip piece hpiece
    obtain ⟨octet, -, rfl⟩ := List.mem_map.1 hpiece
    exact not_mem_toDigits (by decide) (by decide) (by decide)
  have hne : ∀ ip : Ipv4Addr, ((Ipv4Addr.octets ip).map fun octet =>
      displayNat octet.toNat) ≠ [] := by
    intro ip hnil
    have hlen := congrArg List.length hnil
    simp [Ipv4Addr.octets] at hlen
  have hpieces := intercalate_inj (hdot ip) (hdot ip') (hne ip) (hne ip') h
  have hinj : Function.Injective fun octet : UInt8 => displayNat octet.toNat := by
    intro a b hab
    exact UInt8.toNat_inj.1 (toDigits_injective (by decide) (by decide) hab)
  have hoctets : beNat (beBytes 4 ip.toNat) = beNat (beBytes 4 ip'.toNat) :=
    congrArg beNat (List.map_injective_iff.2 hinj hpieces)
  have hlt := ip.toNat_lt
  have hlt' := ip'.toNat_lt
  rw [beNat_beBytes, beNat_beBytes] at hoctets
  apply UInt32.toNat_inj.1
  omega

/-! ## IPv6 addresses -/

/-- The segments of a run are zero. -/
def Span.Zeroes (segments : List ℕ) (span : Span) : Prop :=
  ∀ i, span.start ≤ i → i < span.start + span.len → segments[i]? = some 0

/-- A run of zeros stays one when a segment is added. -/
theorem Span.Zeroes.append {segments : List ℕ} {span : Span} (h : span.Zeroes segments)
    (segment : ℕ) : span.Zeroes (segments ++ [segment]) := by
  intro i hstart hend
  have hi := h i hstart hend
  have hlt : i < segments.length := (List.getElem?_eq_some_iff.1 hi).1
  rw [List.getElem?_append_left hlt, hi]

/-- One turn of the loop keeps the two runs, and the one that may go on ends where the loop is. -/
theorem Span.turn_zeroes {segments : List ℕ} {spans : Span × Span} {segment : ℕ}
    (hlongest : spans.1.Zeroes segments) (hcurrent : spans.2.Zeroes segments)
    (hend : spans.2.len ≠ 0 → spans.2.start + spans.2.len = segments.length) :
    let spans' := Span.turn spans (segment, segments.length)
    spans'.1.Zeroes (segments ++ [segment]) ∧ spans'.2.Zeroes (segments ++ [segment]) ∧
      (spans'.2.len ≠ 0 → spans'.2.start + spans'.2.len = (segments ++ [segment]).length) := by
  obtain ⟨longest, start, len⟩ := spans
  dsimp only at hlongest hcurrent hend
  by_cases hzero : segment = 0
  · subst hzero
    -- The run that goes on has one more zero, or begins here.
    have hrun : Span.Zeroes (segments ++ [0])
        ⟨if len = 0 then segments.length else start, len + 1⟩ := by
      intro i hi hi'
      dsimp only at hi hi'
      by_cases hlast : i = segments.length
      · rw [hlast, List.getElem?_concat_length]
      · split_ifs at hi hi' with hlen
        · omega
        · have hlen := hend hlen
          exact hcurrent.append 0 i hi (by dsimp only; omega)
    have hlen : (if len = 0 then segments.length else start) + (len + 1) =
        (segments ++ [0]).length := by
      rw [List.length_append, List.length_singleton]
      split_ifs with hzero
      · omega
      · have := hend hzero
        omega
    simp only [Span.turn, if_true]
    refine ⟨?_, hrun, fun _ => hlen⟩
    by_cases hlonger : longest.len < len + 1
    · rw [if_pos hlonger]
      exact hrun
    · rw [if_neg hlonger]
      exact hlongest.append 0
  · simp only [Span.turn, if_neg hzero]
    refine ⟨hlongest.append segment, ?_, fun h => absurd rfl h⟩
    intro i hi hi'
    simp at hi'

/-- The run that is found is one of zeros. -/
theorem longestZeroes_zeroes (segments : List ℕ) : (longestZeroes segments).Zeroes segments := by
  have hloop : let spans := segments.zipIdx.foldl Span.turn (⟨0, 0⟩, ⟨0, 0⟩)
      spans.1.Zeroes segments ∧ spans.2.Zeroes segments ∧
        (spans.2.len ≠ 0 → spans.2.start + spans.2.len = segments.length) := by
    induction segments using List.reverseRecOn with
    | nil =>
      refine ⟨?_, ?_, fun h => absurd rfl h⟩ <;>
      · intro i hi hi'
        simp at hi'
    | append_singleton segments segment ih =>
      obtain ⟨hlongest, hcurrent, hend⟩ := ih
      rw [List.zipIdx_append, List.foldl_append]
      simpa using Span.turn_zeroes hlongest hcurrent hend
  exact hloop.1

/-- What stands before the run, the zeros, and what stands behind it. -/
theorem longestZeroes_split (segments : List ℕ) :
    let zeroes := longestZeroes segments
    segments = segments.take zeroes.start ++ List.replicate zeroes.len 0 ++
      segments.drop (zeroes.start + zeroes.len) := by
  have hzeroes := longestZeroes_zeroes segments
  generalize longestZeroes segments = span at hzeroes
  obtain ⟨start, len⟩ := span
  dsimp only
  have hrun : (segments.drop start).take len = List.replicate len 0 := by
    apply List.ext_getElem?
    intro i
    by_cases hi : i < len
    · rw [List.getElem?_take_of_lt hi, List.getElem?_drop,
        hzeroes (start + i) (by dsimp only; omega) (by dsimp only; omega),
        List.getElem?_replicate_of_lt hi]
    · rw [List.getElem?_eq_none (by simp; omega), List.getElem?_eq_none (by simp; omega)]
  rw [← hrun, ← List.drop_drop, List.append_assoc, List.take_append_drop, List.take_append_drop]

/-- The segments of a text that is split at its colons, those that are left out put back. -/
def fromPieces (pieces : List (List Char)) : List (List Char) :=
  let given := pieces.filter (· ≠ [])
  let left := pieces.takeWhile (· ≠ [])
  left ++ List.replicate (8 - given.length) (lowerHex 0) ++ given.drop left.length

/-- The pieces of segments that are joined. There is one piece where there is no segment. -/
theorem splitOn_fmtSubslice (chunk : List ℕ) :
    (fmtSubslice chunk).splitOn ':' = if chunk = [] then [[]] else chunk.map lowerHex := by
  split_ifs with hnil
  · subst hnil
    rfl
  · refine List.splitOn_intercalate ':' ?_ (by simpa using hnil)
    intro piece hpiece
    obtain ⟨segment, -, rfl⟩ := List.mem_map.1 hpiece
    exact not_mem_toDigits (by decide) (by decide) (by decide)

/-- No segment is written as nothing. -/
theorem ne_nil_of_mem_map_lowerHex {chunk : List ℕ} {piece : List Char}
    (h : piece ∈ chunk.map lowerHex) : decide (piece ≠ []) = true := by
  obtain ⟨segment, -, rfl⟩ := List.mem_map.1 h
  simp [lowerHex]

/-- The pieces of segments that are joined, without an empty one. -/
theorem filter_pieces (chunk : List ℕ) :
    List.filter (· ≠ []) (if chunk = [] then [[]] else chunk.map lowerHex) =
      chunk.map lowerHex := by
  split_ifs with hnil
  · subst hnil
    rfl
  · rw [List.filter_eq_self]
    exact fun piece => ne_nil_of_mem_map_lowerHex

/-- The pieces before the first empty one are those before the zeros that are left out. -/
theorem takeWhile_pieces (left : List ℕ) (rest : List (List Char)) :
    List.takeWhile (· ≠ []) ((if left = [] then [[]] else left.map lowerHex) ++ [] :: rest) =
      left.map lowerHex := by
  split_ifs with hnil
  · subst hnil
    rfl
  · rw [List.takeWhile_append_of_pos fun piece => ne_nil_of_mem_map_lowerHex,
      List.takeWhile_cons_of_neg (by simp), List.append_nil]

/-- The segments can be read back from their text. -/
theorem fromPieces_displaySegments {segments : List ℕ} (hlen : segments.length = 8) :
    fromPieces ((displaySegments segments).splitOn ':') = segments.map lowerHex := by
  have hsplit := longestZeroes_split segments
  unfold displaySegments
  generalize longestZeroes segments = zeroes at hsplit ⊢
  dsimp only at hsplit ⊢
  split_ifs with hlonger
  · generalize segments.take zeroes.start = left at hsplit ⊢
    generalize segments.drop (zeroes.start + zeroes.len) = right at hsplit ⊢
    -- Between the two parts stands an empty piece.
    have hpieces : (fmtSubslice left ++ [':', ':'] ++ fmtSubslice right).splitOn ':' =
        (if left = [] then [[]] else left.map lowerHex) ++ [] ::
          (if right = [] then [[]] else right.map lowerHex) := by
      rw [List.append_assoc, List.cons_append, List.singleton_append,
        List.splitOn_append_cons_self, splitOn_fmtSubslice, ← List.nil_append (':' :: _),
        List.splitOn_append_cons_self, splitOn_fmtSubslice, List.splitOn_nil,
        List.singleton_append]
    have hzeroes : 8 - (left.length + right.length) = zeroes.len := by
      have := congrArg List.length hsplit
      simp only [List.length_append, List.length_replicate] at this
      omega
    rw [fromPieces, hpieces, takeWhile_pieces, List.filter_append,
      List.filter_cons_of_neg (by simp), filter_pieces, filter_pieces, List.length_append,
      List.length_map, List.length_map, hzeroes, List.drop_left' (by simp)]
    conv_rhs => rw [hsplit]
    simp
  · have hne : segments ≠ [] := by
      intro hnil
      simp [hnil] at hlen
    have hall : (segments.map lowerHex).takeWhile (· ≠ []) = segments.map lowerHex :=
      List.takeWhile_eq_self_iff.2 fun piece => ne_nil_of_mem_map_lowerHex
    have hgiven := filter_pieces segments
    rw [if_neg hne] at hgiven
    rw [splitOn_fmtSubslice, if_neg hne, fromPieces, hgiven, hall]
    simp [hlen]

/-- Segments that are written in the same way are the same. -/
theorem displaySegments_inj {segments segments' : List ℕ} (hlen : segments.length = 8)
    (hlen' : segments'.length = 8) (h : displaySegments segments = displaySegments segments') :
    segments = segments' := by
  have hinj : Function.Injective lowerHex := toDigits_injective (by decide) (by decide)
  apply List.map_injective_iff.2 hinj
  rw [← fromPieces_displaySegments hlen, h, fromPieces_displaySegments hlen']

/-- The segments of an address determine it. -/
theorem Ipv6Addr.segments_injective : Ipv6Addr.segments.Injective := by
  intro ip ip' h
  -- What stands above a segment, and the segment, determine what stands from the segment on.
  have hdown : ∀ i, ip.toNat / 2 ^ (16 * (i + 1)) = ip'.toNat / 2 ^ (16 * (i + 1)) →
      ip.toNat / 2 ^ (16 * i) % 2 ^ 16 = ip'.toNat / 2 ^ (16 * i) % 2 ^ 16 →
      ip.toNat / 2 ^ (16 * i) = ip'.toNat / 2 ^ (16 * i) := by
    intro i habove hsegment
    refine Nat.ext_div_mod ?_ hsegment
    rw [Nat.div_div_eq_div_mul, Nat.div_div_eq_div_mul, ← Nat.pow_add]
    exact habove
  have htop : ip.toNat / 2 ^ (16 * 8) = ip'.toNat / 2 ^ (16 * 8) := by
    rw [Nat.div_eq_of_lt ip.isLt, Nat.div_eq_of_lt ip'.isLt]
  simp only [Ipv6Addr.segments, List.map_cons, List.map_nil, List.cons.injEq] at h
  obtain ⟨h7, h6, h5, h4, h3, h2, h1, h0, -⟩ := h
  have hall := hdown 0 (hdown 1 (hdown 2 (hdown 3 (hdown 4 (hdown 5 (hdown 6 (hdown 7 htop h7)
    h6) h5) h4) h3) h2) h1) h0
  rw [Nat.mul_zero, Nat.pow_zero, Nat.div_one, Nat.div_one] at hall
  exact BitVec.eq_of_toNat_eq hall

/-- Segments and colons are written without a dot. -/
theorem not_mem_displaySegments (segments : List ℕ) : '.' ∉ displaySegments segments := by
  have hchunk : ∀ chunk : List ℕ, '.' ∉ fmtSubslice chunk := by
    intro chunk hdot
    rcases mem_intercalate hdot with hcolon | ⟨piece, hpiece, hdot⟩
    · exact absurd hcolon (by decide)
    · obtain ⟨segment, -, rfl⟩ := List.mem_map.1 hpiece
      exact not_mem_toDigits (by decide) (by decide) (by decide) hdot
  unfold displaySegments
  dsimp only
  split_ifs
  · simp [hchunk]
  · exact hchunk segments

/-- The text of a mapped address. -/
theorem Ipv6Addr.display_of_mapped {ip : Ipv6Addr} {ipv4 : Ipv4Addr}
    (h : Ipv6Addr.toIpv4Mapped ip = some ipv4) :
    Ipv6Addr.display ip = "::ffff:".toList ++ Ipv4Addr.display ipv4 := by
  rw [Ipv6Addr.display, h]

/-- The text of an address that is not mapped. -/
theorem Ipv6Addr.display_of_unmapped {ip : Ipv6Addr} (h : Ipv6Addr.toIpv4Mapped ip = none) :
    Ipv6Addr.display ip = displaySegments (Ipv6Addr.segments ip) := by
  rw [Ipv6Addr.display, h]

/-- The text of an IPv6 address determines it. -/
theorem Ipv6Addr.display_injective : Ipv6Addr.display.Injective := by
  intro ip ip' h
  have hdot : ∀ ipv4 : Ipv4Addr, '.' ∈ "::ffff:".toList ++ Ipv4Addr.display ipv4 := by
    intro ipv4
    simp [Ipv4Addr.display, Ipv4Addr.octets, beBytes]
  cases hmapped : Ipv6Addr.toIpv4Mapped ip with
  | none =>
    rw [Ipv6Addr.display_of_unmapped hmapped] at h
    cases hmapped' : Ipv6Addr.toIpv4Mapped ip' with
    | none =>
      rw [Ipv6Addr.display_of_unmapped hmapped'] at h
      exact Ipv6Addr.segments_injective (displaySegments_inj rfl rfl h)
    | some ipv4 =>
      rw [Ipv6Addr.display_of_mapped hmapped'] at h
      exact absurd (h ▸ hdot ipv4) (not_mem_displaySegments _)
  | some ipv4 =>
    rw [Ipv6Addr.display_of_mapped hmapped] at h
    cases hmapped' : Ipv6Addr.toIpv4Mapped ip' with
    | none =>
      rw [Ipv6Addr.display_of_unmapped hmapped'] at h
      exact absurd (h ▸ hdot ipv4) (not_mem_displaySegments _)
    | some ipv4' =>
      rw [Ipv6Addr.display_of_mapped hmapped'] at h
      have hipv4 := Ipv4Addr.display_injective (List.append_cancel_left h)
      -- Both have the prefix of mapped addresses, and the rest is the same.
      unfold Ipv6Addr.toIpv4Mapped at hmapped hmapped'
      split_ifs at hmapped hmapped' with hpre hpre'
      cases hmapped
      cases hmapped'
      have hlow := congrArg UInt32.toNat hipv4
      rw [UInt32.toNat_ofNat', UInt32.toNat_ofNat'] at hlow
      apply BitVec.eq_of_toNat_eq
      omega

/-! ## The line -/

/-- `char::is_ascii_graphic`. -/
def isAsciiGraphic (c : Char) : Bool := 33 ≤ c.toNat ∧ c.toNat ≤ 126

/-- The UTF-8 bytes of a text of ASCII characters are their numbers. -/
theorem utf8_ofList_of_ascii {text : List Char} (h : ∀ c ∈ text, c.toNat < 128) :
    utf8 (String.ofList text) = text.map fun c => .ofNat c.toNat := by
  induction text with
  | nil => rfl
  | cons c text ih =>
    have hc : c.toNat < 128 := h c (by simp)
    have hsize : c.utf8Size = 1 := by
      rw [Char.utf8Size_eq_one_iff]
      exact UInt32.le_iff_toNat_le.2 (by change c.toNat ≤ 127; omega)
    have hbyte : c.val.toUInt8 = UInt8.ofNat c.toNat := rfl
    have hrest := ih fun c' hc' => h c' (List.mem_cons_of_mem c hc')
    rw [utf8, String.toByteArray_ofList] at hrest ⊢
    rw [List.utf8Encode_cons, List.utf8Encode_singleton, String.utf8EncodeChar_eq_singleton hsize,
      ByteArray.data_append, Array.toList_append, hrest, hbyte]
    simp

/-- Digits are graphic characters. -/
theorem isAsciiGraphic_of_mem_toDigits {b n : ℕ} {c : Char} (hb : 1 < b) (hb' : b ≤ 16)
    (h : c ∈ Nat.toDigits b n) : isAsciiGraphic c := by
  obtain ⟨d, hd, rfl⟩ := exists_of_mem_toDigits hb h
  have hall : ∀ d < 16, isAsciiGraphic (Nat.digitChar d) := by decide
  exact hall d (by omega)

/-- Numbers that are joined by a graphic character are graphic. -/
theorem isAsciiGraphic_of_mem_intercalate {sep c : Char} {b : ℕ} {numbers : List ℕ}
    (hb : 1 < b) (hb' : b ≤ 16) (hsep : isAsciiGraphic sep)
    (h : c ∈ [sep].intercalate (numbers.map (Nat.toDigits b))) : isAsciiGraphic c := by
  rcases mem_intercalate h with rfl | ⟨piece, hpiece, hc⟩
  · exact hsep
  · obtain ⟨n, -, rfl⟩ := List.mem_map.1 hpiece
    exact isAsciiGraphic_of_mem_toDigits hb hb' hc

/-- The text of an IPv4 address is graphic. -/
theorem Ipv4Addr.isAsciiGraphic_of_mem_display {ip : Ipv4Addr} {c : Char}
    (h : c ∈ Ipv4Addr.display ip) : isAsciiGraphic c := by
  have hmap : ((Ipv4Addr.octets ip).map fun octet => displayNat octet.toNat) =
      ((Ipv4Addr.octets ip).map UInt8.toNat).map (Nat.toDigits 10) := by
    rw [List.map_map]
    rfl
  rw [Ipv4Addr.display, hmap] at h
  exact isAsciiGraphic_of_mem_intercalate (by decide) (by decide) (by decide) h

/-- The text of an IPv6 address is graphic. -/
theorem Ipv6Addr.isAsciiGraphic_of_mem_display {ip : Ipv6Addr} {c : Char}
    (h : c ∈ Ipv6Addr.display ip) : isAsciiGraphic c := by
  have hchunk : ∀ chunk : List ℕ, ∀ c ∈ fmtSubslice chunk, isAsciiGraphic c := by
    intro chunk c hc
    exact isAsciiGraphic_of_mem_intercalate (by decide) (by decide) (by decide) hc
  have hcolon : isAsciiGraphic ':' := by decide
  cases hmapped : Ipv6Addr.toIpv4Mapped ip with
  | some ipv4 =>
    rw [Ipv6Addr.display_of_mapped hmapped, List.mem_append] at h
    rcases h with h | h
    · have hall : "::ffff:".toList.all isAsciiGraphic = true := rfl
      exact List.all_eq_true.1 hall c h
    · exact Ipv4Addr.isAsciiGraphic_of_mem_display h
  | none =>
    rw [Ipv6Addr.display_of_unmapped hmapped] at h
    unfold displaySegments at h
    dsimp only at h
    split_ifs at h
    · rw [List.mem_append, List.mem_append] at h
      rcases h with (h | h) | h
      · exact hchunk _ c h
      · obtain rfl : c = ':' := by simpa using h
        exact hcolon
      · exact hchunk _ c h
    · exact hchunk _ c h

/-- How long pieces that are joined can be. -/
theorem length_intercalate_le {α : Type} (sep : α) (pieces : List (List α)) {k : ℕ}
    (h : ∀ piece ∈ pieces, piece.length ≤ k) :
    ([sep].intercalate pieces).length ≤ pieces.length * (k + 1) - 1 := by
  induction pieces with
  | nil => simp
  | cons piece pieces ih =>
    have hpiece := h piece (by simp)
    have hrest := ih fun piece' hpiece' => h piece' (List.mem_cons_of_mem _ hpiece')
    cases pieces with
    | nil => simpa using hpiece
    | cons piece' pieces =>
      rw [List.intercalate_cons_cons]
      simp only [List.length_append, List.length_cons, List.length_nil, Nat.add_mul] at hrest ⊢
      omega

/-- A number below `b^k` has at most `k` digits. -/
theorem length_toDigits_le {b n k : ℕ} (hb : 1 < b) (hk : 0 < k) (h : n < b ^ k) :
    (Nat.toDigits b n).length ≤ k :=
  (Nat.length_toDigits_le_iff hb hk).2 h

/-- The text of an IPv4 address has at most 15 characters. -/
theorem Ipv4Addr.length_display_le (ip : Ipv4Addr) : (Ipv4Addr.display ip).length ≤ 15 := by
  have hlen := length_intercalate_le '.'
    ((Ipv4Addr.octets ip).map fun octet => displayNat octet.toNat) (k := 3) (by
      intro piece hpiece
      obtain ⟨octet, -, rfl⟩ := List.mem_map.1 hpiece
      have hoctet := octet.toNat_lt
      exact length_toDigits_le (by decide) (by decide) (by omega))
  simpa [Ipv4Addr.display, Ipv4Addr.octets] using hlen

/-- The text of segments has four characters and a colon for each of them at most. -/
theorem length_fmtSubslice_le (chunk : List ℕ) (h : ∀ segment ∈ chunk, segment < 2 ^ 16) :
    (fmtSubslice chunk).length ≤ chunk.length * 5 - 1 := by
  have hlen := length_intercalate_le ':' (chunk.map lowerHex) (k := 4) (by
    intro piece hpiece
    obtain ⟨segment, hsegment, rfl⟩ := List.mem_map.1 hpiece
    exact length_toDigits_le (by decide) (by decide) (h segment hsegment))
  simpa [fmtSubslice] using hlen

/-- The text of an IPv6 address has at most 39 characters. -/
theorem Ipv6Addr.length_display_le (ip : Ipv6Addr) : (Ipv6Addr.display ip).length ≤ 39 := by
  cases hmapped : Ipv6Addr.toIpv4Mapped ip with
  | some ipv4 =>
    have hlen := Ipv4Addr.length_display_le ipv4
    have hpre : "::ffff:".toList.length = 7 := rfl
    rw [Ipv6Addr.display_of_mapped hmapped, List.length_append, hpre]
    omega
  | none =>
    have hsegments : ∀ segment ∈ Ipv6Addr.segments ip, segment < 2 ^ 16 := by
      intro segment hsegment
      obtain ⟨i, -, rfl⟩ := List.mem_map.1 hsegment
      exact Nat.mod_lt _ (by decide)
    have hlen : (Ipv6Addr.segments ip).length = 8 := rfl
    rw [Ipv6Addr.display_of_unmapped hmapped]
    unfold displaySegments
    dsimp only
    split_ifs with hlonger
    · -- At least two segments are left out.
      have hsplit := congrArg List.length (longestZeroes_split (Ipv6Addr.segments ip))
      have hleft := length_fmtSubslice_le ((Ipv6Addr.segments ip).take
        (longestZeroes (Ipv6Addr.segments ip)).start)
        fun segment hmem => hsegments segment (List.mem_of_mem_take hmem)
      have hright := length_fmtSubslice_le ((Ipv6Addr.segments ip).drop
        ((longestZeroes (Ipv6Addr.segments ip)).start + (longestZeroes (Ipv6Addr.segments ip)).len))
        fun segment hmem => hsegments segment (List.mem_of_mem_drop hmem)
      simp only [List.length_append, List.length_replicate, List.length_cons, List.length_nil]
        at hsplit ⊢
      omega
    · have hall := length_fmtSubslice_le _ hsegments
      omega

namespace ProxyProtocolHeader

/-- The words of the line are graphic. -/
theorem isAsciiGraphic_of_mem_words {header : ProxyProtocolHeader} {word : List Char} {c : Char}
    (hword : word ∈ header.words) (hc : c ∈ word) : isAsciiGraphic c := by
  have hall : (["PROXY", "TCP4", "TCP6"].all fun fixed => fixed.toList.all isAsciiGraphic) = true :=
    rfl
  have hfixed : ∀ fixed ∈ ["PROXY", "TCP4", "TCP6"], ∀ c ∈ fixed.toList, isAsciiGraphic c := by
    intro fixed hmem
    exact List.all_eq_true.1 (List.all_eq_true.1 hall fixed hmem)
  have hport : ∀ port : ℕ, ∀ c ∈ displayNat port, isAsciiGraphic c := by
    intro port c hc
    exact isAsciiGraphic_of_mem_toDigits (by decide) (by decide) hc
  cases header with
  | afInet client_ip proxy_ip client_port proxy_port =>
    simp only [words, List.mem_cons, List.not_mem_nil, or_false] at hword
    rcases hword with rfl | rfl | rfl | rfl | rfl | rfl
    · exact hfixed "PROXY" (by simp) c hc
    · exact hfixed "TCP4" (by simp) c hc
    · exact Ipv4Addr.isAsciiGraphic_of_mem_display hc
    · exact Ipv4Addr.isAsciiGraphic_of_mem_display hc
    · exact hport _ c hc
    · exact hport _ c hc
  | afInet6 client_ip proxy_ip client_port proxy_port =>
    simp only [words, List.mem_cons, List.not_mem_nil, or_false] at hword
    rcases hword with rfl | rfl | rfl | rfl | rfl | rfl
    · exact hfixed "PROXY" (by simp) c hc
    · exact hfixed "TCP6" (by simp) c hc
    · exact Ipv6Addr.isAsciiGraphic_of_mem_display hc
    · exact Ipv6Addr.isAsciiGraphic_of_mem_display hc
    · exact hport _ c hc
    · exact hport _ c hc

/-- The words of the line determine the header. -/
theorem words_injective : words.Injective := by
  intro header header' h
  have hport : ∀ {port port' : UInt16}, displayNat port.toNat = displayNat port'.toNat →
      port = port' := by
    intro port port' hport
    exact UInt16.toNat_inj.1 (toDigits_injective (by decide) (by decide) hport)
  cases header with
  | afInet client_ip proxy_ip client_port proxy_port =>
    cases header' with
    | afInet client_ip' proxy_ip' client_port' proxy_port' =>
      simp only [words, List.cons.injEq, true_and, and_true] at h
      obtain ⟨hclient, hproxy, hclientPort, hproxyPort⟩ := h
      rw [Ipv4Addr.display_injective hclient, Ipv4Addr.display_injective hproxy,
        hport hclientPort, hport hproxyPort]
    | afInet6 client_ip' proxy_ip' client_port' proxy_port' => simp [words] at h
  | afInet6 client_ip proxy_ip client_port proxy_port =>
    cases header' with
    | afInet client_ip' proxy_ip' client_port' proxy_port' => simp [words] at h
    | afInet6 client_ip' proxy_ip' client_port' proxy_port' =>
      simp only [words, List.cons.injEq, true_and, and_true] at h
      obtain ⟨hclient, hproxy, hclientPort, hproxyPort⟩ := h
      rw [Ipv6Addr.display_injective hclient, Ipv6Addr.display_injective hproxy,
        hport hclientPort, hport hproxyPort]

/-- The line without its end. -/
def line (header : ProxyProtocolHeader) : List Char := [' '].intercalate header.words

/-- The line without its end has at most 54 characters for IPv4, and 102 for IPv6. -/
theorem length_line_le (header : ProxyProtocolHeader) : header.line.length ≤ 102 := by
  have hport : ∀ port : UInt16, (displayNat port.toNat).length ≤ 5 := by
    intro port
    have hlt := port.toNat_lt
    exact length_toDigits_le (by decide) (by decide) (by omega)
  cases header with
  | afInet client_ip proxy_ip client_port proxy_port =>
    have hclient := Ipv4Addr.length_display_le client_ip
    have hproxy := Ipv4Addr.length_display_le proxy_ip
    have hclientPort := hport client_port
    have hproxyPort := hport proxy_port
    simp [line, words]
    omega
  | afInet6 client_ip proxy_ip client_port proxy_port =>
    have hclient := Ipv6Addr.length_display_le client_ip
    have hproxy := Ipv6Addr.length_display_le proxy_ip
    have hclientPort := hport client_port
    have hproxyPort := hport proxy_port
    simp [line, words]
    omega

/-- The characters of the line are graphic, or spaces. -/
theorem of_mem_line {header : ProxyProtocolHeader} {c : Char} (h : c ∈ header.line) :
    32 ≤ c.toNat ∧ c.toNat ≤ 126 := by
  rcases mem_intercalate h with rfl | ⟨word, hword, hc⟩
  · decide
  · have hgraphic := isAsciiGraphic_of_mem_words hword hc
    simp only [isAsciiGraphic, decide_eq_true_eq] at hgraphic
    omega

/-- The bytes of the line. -/
theorem utf8_display (header : ProxyProtocolHeader) :
    utf8 header.display = header.line.map (fun c => .ofNat c.toNat) ++ [13, 10] := by
  have hascii : ∀ c ∈ header.line ++ ['\r', '\n'], c.toNat < 128 := by
    intro c hc
    rcases List.mem_append.1 hc with hc | hc
    · have := of_mem_line hc
      omega
    · have hend : (['\r', '\n'].all fun c => c.toNat < 128) = true := rfl
      simpa using List.all_eq_true.1 hend c hc
  rw [display, ← line, utf8_ofList_of_ascii hascii, List.map_append]
  rfl

/-- The line determines the header. -/
theorem line_injective : line.Injective := by
  intro header header' h
  have hspace : ∀ header : ProxyProtocolHeader, ∀ word ∈ header.words, ' ' ∉ word := by
    intro header word hword hc
    exact absurd (isAsciiGraphic_of_mem_words hword hc) (by decide)
  have hne : ∀ header : ProxyProtocolHeader, header.words ≠ [] := by
    intro header
    cases header <;> simp [words]
  exact words_injective
    (intercalate_inj (hspace header) (hspace header') (hne header) (hne header') h)

/-- The characters of the line, read back from its bytes. -/
theorem line_eq_map (header : ProxyProtocolHeader) :
    header.line = (header.line.map fun c => UInt8.ofNat c.toNat).map fun b => .ofNat b.toNat := by
  rw [List.map_map]
  refine (List.map_id _).symm.trans (List.map_congr_left fun c hc => ?_)
  have hrange := of_mem_line hc
  have hbyte : (UInt8.ofNat c.toNat).toNat = c.toNat := by
    rw [UInt8.toNat_ofNat']
    omega
  rw [Function.comp_apply, hbyte, Char.ofNat_toNat, id]

/-- No newline stands before the end of the line. -/
theorem newline_not_mem (header : ProxyProtocolHeader) :
    (10 : UInt8) ∉ (header.line.map fun c => UInt8.ofNat c.toNat) ++ [13] := by
  intro h
  rcases List.mem_append.1 h with h | h
  · obtain ⟨c, hc, hbyte⟩ := List.mem_map.1 h
    have hrange := of_mem_line hc
    have hnat := congrArg UInt8.toNat hbyte
    rw [UInt8.toNat_ofNat'] at hnat
    have hten : (10 : UInt8).toNat = 10 := rfl
    omega
  · exact absurd h (by decide)

/-- The line is printable ASCII of at most 102 bytes with the end of a line behind it. It says all
of the header, and where it ends: whatever follows it on the stream, no other header and no other
rest give the same bytes. -/
theorem proxy_v1_line_self_delimiting (header : ProxyProtocolHeader) :
    (∃ line : List UInt8, header.writeV1Tcp Sink.vec = .ok ((), ⟨line ++ [13, 10], none⟩) ∧
      line.length ≤ 102 ∧ ∀ b ∈ line, 32 ≤ b.toNat ∧ b.toNat ≤ 126) ∧
    ∀ header' rest rest', utf8 header.display ++ rest = utf8 header'.display ++ rest' →
      header = header' ∧ rest = rest' := by
  refine ⟨⟨header.line.map fun c => .ofNat c.toNat, ?_, ?_, ?_⟩, ?_⟩
  · rw [writeV1Tcp, utf8_display]
    rfl
  · rw [List.length_map]
    exact length_line_le header
  · intro b hb
    obtain ⟨c, hc, rfl⟩ := List.mem_map.1 hb
    have hrange := of_mem_line hc
    rw [UInt8.toNat_ofNat']
    omega
  · intro header' rest rest' h
    -- Both lines end at the first newline.
    have htake : ∀ (header : ProxyProtocolHeader) (rest : List UInt8),
        takeLine 10 (utf8 header.display ++ rest) =
          some ((header.line.map fun c => UInt8.ofNat c.toNat) ++ [13], rest) := by
      intro header rest
      refine takeLine_eq_some_iff.2 ⟨?_, newline_not_mem header⟩
      rw [utf8_display]
      simp
    have hsome := htake header rest
    rw [h, htake header' rest'] at hsome
    simp only [Option.some.injEq, Prod.mk.injEq] at hsome
    obtain ⟨hline, hrest⟩ := hsome
    refine ⟨line_injective ?_, hrest.symm⟩
    rw [line_eq_map header, line_eq_map header', List.append_cancel_right hline]

end ProxyProtocolHeader

end PlayitAgent
