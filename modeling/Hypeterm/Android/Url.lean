import Hypeterm.Term.Sequences
import Hypeterm.Util

/-! URLs as the phone reads and prints them.  The origin, where a default port is left out, is
what the relay binds into what is signed. -/
namespace Hypeterm.Android.Net

open Library List
open Util (utf8Bytes)
open Term (parseUint64 asciiBytes)

structure Url where
  scheme : Bytes
  host : Bytes
  port : UInt16
  path : Bytes
  query : Bytes
  deriving DecidableEq

def isSecure (scheme : Bytes) : Bool := scheme = utf8Bytes "https" ∨ scheme = utf8Bytes "wss"

def Url.secure (url : Url) : Bool := isSecure url.scheme

def uint64ToString (value : Nat) : Bytes := asciiBytes (Nat.toDigits 10 value)

def Url.defaultPort (url : Url) : Bool :=
  (url.secure && url.port = 443) || (!url.secure && url.port = 80)

def Url.origin (url : Url) : Bytes :=
  let out := url.scheme ++ (utf8Bytes "://" ++ url.host)
  if !url.defaultPort && url.port ≠ 0 then out ++ 0x3A :: uint64ToString url.port.toNat else out

def Url.requestTarget (url : Url) : Bytes :=
  let target := if url.path = [] then [0x2F] else url.path
  if url.query ≠ [] then target ++ 0x3F :: url.query else target

def Url.toString (url : Url) : Bytes := url.origin ++ url.requestTarget

def invalid {α : Type} (reason : Bytes) : Except Bytes α := .error (utf8Bytes "url: " ++ reason)

def lower (c : UInt8) : UInt8 := if 0x41 ≤ c ∧ c ≤ 0x5A then c - 0x41 + 0x61 else c

def toLowerAscii (text : Bytes) : Bytes := text.map lower

def validHostChar (c : UInt8) : Bool :=
  (0x61 ≤ c && c ≤ 0x7A) || (0x41 ≤ c && c ≤ 0x5A) || (0x30 ≤ c && c ≤ 0x39) ||
    c = 0x2D || c = 0x2E || c = 0x5F || c = 0x3A || c = 0x5B || c = 0x5D

/-- What comes before the first place where `mark` is found, and what comes after it. -/
def cut (mark : Bytes) : Bytes → Option (Bytes × Bytes)
  | [] => none
  | byte :: rest =>
      if mark <+: byte :: rest then some ([], (byte :: rest).drop mark.length)
      else (cut mark rest).map fun found => (byte :: found.1, found.2)

/-- What comes before the last colon, and what comes after it. -/
def cutLastColon (text : Bytes) : Bytes × Bytes :=
  (((text.reverse.dropWhile (· ≠ 0x3A)).drop 1).reverse, (text.reverse.takeWhile (· ≠ 0x3A)).reverse)

def splitAuthority (authority : Bytes) : Except Bytes (Bytes × Bytes) :=
  if authority.head? = some 0x5B then
    if 0x5D ∈ authority then
      let host := authority.takeWhile (· ≠ 0x5D) ++ [0x5D]
      match (authority.dropWhile (· ≠ 0x5D)).drop 1 with
      | [] => .ok (host, [])
      | byte :: portText =>
          if byte ≠ 0x3A then invalid (utf8Bytes "malformed authority") else .ok (host, portText)
    else invalid (utf8Bytes "malformed IPv6 literal")
  else .ok (if 0x3A ∈ authority then cutLastColon authority else (authority, []))

def defaultPort (scheme : Bytes) : UInt16 := if isSecure scheme then 443 else 80

def parsePort (scheme portText : Bytes) : Option UInt16 :=
  if portText = [] then some (defaultPort scheme)
  else (parseUint64 portText 65535).bind fun port =>
    if port = 0 then none else some (UInt16.ofNat port)

def parseAuthority (scheme authority : Bytes) : Except Bytes (Bytes × UInt16) := do
  let (host, portText) ← splitAuthority authority
  if host = [] then invalid (utf8Bytes "missing host")
  else if host.any (!validHostChar ·) then invalid (utf8Bytes "invalid character in host")
  else
    match parsePort scheme portText with
    | none => invalid (utf8Bytes "invalid port")
    | some port => pure (toLowerAscii host, port)

def schemes : List Bytes := ["http", "https", "ws", "wss"].map utf8Bytes

def endsAuthority (c : UInt8) : Bool := c = 0x2F || c = 0x3F || c = 0x23

/-- The authority of a text with its scheme and the rest of it. -/
def authorityOf (text : Bytes) : Option (Bytes × Bytes × Bytes) :=
  (cut (utf8Bytes "://") text).map fun (before, rest) =>
    (toLowerAscii before, rest.takeWhile (!endsAuthority ·), rest.dropWhile (!endsAuthority ·))

/-- The path and the query; the fragment is left out. -/
def splitTarget (remainder : Bytes) : Bytes × Bytes :=
  let remainder := remainder.takeWhile (· ≠ 0x23)
  let path := remainder.takeWhile (· ≠ 0x3F)
  (if path = [] then [0x2F] else path, (remainder.dropWhile (· ≠ 0x3F)).drop 1)

def parseUrl (text : Bytes) : Except Bytes Url :=
  match authorityOf text with
  | none => invalid (utf8Bytes "missing scheme")
  | some (scheme, authority, remainder) =>
      if scheme ∉ schemes then
        invalid (utf8Bytes "unsupported scheme: " ++ sanitizeForMessage scheme 16)
      else if authority = [] then invalid (utf8Bytes "missing host")
      else if 0x40 ∈ authority then
        invalid (utf8Bytes "credentials in the authority are not accepted")
      else do
        let (host, port) ← parseAuthority scheme authority
        let target := splitTarget remainder
        if target.1.head? ≠ some 0x2F then invalid (utf8Bytes "path must be absolute")
        else pure { scheme, host, port, path := target.1, query := target.2 }

theorem guard_ok {α : Type} {wrong : Prop} [Decidable wrong] {reason : Bytes}
    {next : Except Bytes α} {value : α} :
    (if wrong then invalid reason else next) = .ok value ↔ ¬wrong ∧ next = .ok value := by
  split
  · rename_i hwrong
    exact iff_of_false nofun fun right => right.1 hwrong
  · rename_i hright
    exact (and_iff_right hright).symm

theorem cut_append {first : UInt8} {mark before : Bytes} (after : Bytes) (fresh : first ∉ before) :
    cut (first :: mark) (before ++ (first :: mark ++ after)) = some (before, after) := by
  induction before with
  | nil =>
    rw [nil_append, cons_append, cut, ← cons_append, if_pos (prefix_append _ _),
      drop_left]
  | cons byte before ih =>
    obtain ⟨hbyte, hbefore⟩ := not_or.mp fun member => fresh (mem_cons.mpr member)
    rw [cons_append, cut, if_neg fun hprefix => hbyte (cons_prefix_cons.mp hprefix).1, ih hbefore]
    rfl

theorem cutLastColon_append {front back : Bytes} (fresh : 0x3A ∉ back) :
    cutLastColon (front ++ 0x3A :: back) = (front, back) := by
  have hall : ∀ byte ∈ back.reverse, decide (byte ≠ 0x3A) = true := by
    intro byte member
    rw [decide_eq_true_eq]
    rintro rfl
    exact fresh (mem_reverse.mp member)
  have hreverse : (front ++ 0x3A :: back).reverse = back.reverse ++ 0x3A :: front.reverse := by simp
  rw [cutLastColon, hreverse, takeWhile_append_of_pos hall, dropWhile_append_of_pos hall]
  simp

theorem exists_last_colon {text : Bytes} (has : 0x3A ∈ text) :
    ∃ front back, text = front ++ 0x3A :: back ∧ 0x3A ∉ back := by
  obtain ⟨back, front, hreverse, hfresh⟩ := eq_append_cons_of_mem (mem_reverse.mpr has)
  refine ⟨front.reverse, back.reverse, ?_, fun member => hfresh (mem_reverse.mp member)⟩
  rw [← reverse_reverse text, hreverse]
  simp

theorem lower_facts (c : UInt8) : lower (lower c) = lower c ∧
    validHostChar (lower c) = validHostChar c ∧ (lower c = 0x3A ↔ c = 0x3A) ∧
      (lower c = 0x5B ↔ c = 0x5B) ∧ (lower c = 0x5D ↔ c = 0x5D) := by
  revert c
  apply forall_uint8
  decide +kernel

theorem mem_toLowerAscii {mark : UInt8} (kept : ∀ c, lower c = mark ↔ c = mark) (text : Bytes) :
    mark ∈ toLowerAscii text ↔ mark ∈ text := by
  rw [toLowerAscii, mem_map]
  constructor
  · rintro ⟨c, member, hc⟩
    exact (kept c).mp hc ▸ member
  · exact fun member => ⟨mark, member, (kept mark).mpr rfl⟩

theorem validHostChar_plain {c : UInt8} (valid : validHostChar c = true) :
    endsAuthority c = false ∧ c ≠ 0x40 := by
  revert c
  apply forall_uint8
  decide +kernel

theorem isDigit_plain {c : UInt8} (digit : Parser.isDigit c = true) :
    endsAuthority c = false ∧ c ≠ 0x40 ∧ c ≠ 0x3A := by
  revert c
  apply forall_uint8
  decide +kernel

theorem schemes_plain : ∀ scheme ∈ schemes, toLowerAscii scheme = scheme ∧ 0x3A ∉ scheme := by
  decide

theorem uint64ToString_ne_nil (value : Nat) : uint64ToString value ≠ [] := by
  rw [uint64ToString, asciiBytes, Ne, map_eq_nil_iff]
  exact Nat.toDigits_ne_nil

theorem parseUint64_toDigits {value max : Nat} (within : value ≤ max) (small : max < 2 ^ 60) :
    parseUint64 (uint64ToString value) max = some value := by
  have hsome := uint64ToString_ne_nil value
  have hlength : (uint64ToString value).length ≤ 20 := by
    rw [uint64ToString, asciiBytes, length_map, Nat.length_toDigits_le_iff (by decide) (by decide)]
    omega
  have hvalue : (Nat.toDigits 10 value).foldl
      (fun sofar c => 10 * sofar + (c.toNat - 48)) 0 = value := Nat.ofDigitChars_ten_toDigits
  have hdigits : ∀ c ∈ Nat.toDigits 10 value, 48 ≤ c.toNat ∧ c.toNat ≤ 57 := by
    intro c member
    have hdigit := Nat.isDigit_of_mem_toDigits (by decide) (by decide) member
    rw [Char.isDigit, Bool.and_eq_true, decide_eq_true_eq, decide_eq_true_eq] at hdigit
    exact hdigit
  rw [parseUint64, if_neg (not_or.mpr ⟨hsome, by omega⟩), uint64ToString, asciiBytes, foldl_map]
  clear hsome hlength
  generalize Nat.toDigits 10 value = digits at hvalue hdigits ⊢
  subst hvalue
  induction digits using reverseRecOn with
  | nil => rfl
  | append_singleton digits c ih =>
    obtain ⟨hlow, hhigh⟩ := hdigits c (mem_append_right _ (mem_singleton_self c))
    have hbyte : (UInt8.ofNat c.toNat).toNat = c.toNat := UInt8.toNat_ofNat_of_lt (show c.toNat < 2 ^ 8 by omega)
    have h48 : (0x30 : UInt8).toNat = 48 := rfl
    have h57 : (0x39 : UInt8).toNat = 57 := rfl
    rw [foldl_concat] at within ⊢
    have hplain : ¬(UInt8.ofNat c.toNat < 0x30 ∨ 0x39 < UInt8.ofNat c.toNat) := by
      rw [UInt8.lt_iff_toNat_lt, UInt8.lt_iff_toNat_lt, hbyte]
      omega
    rw [foldl_concat, ih (fun c member => hdigits c (mem_append_left _ member)) (by omega),
      Option.bind_some, hbyte, if_neg hplain, if_neg (by omega), if_neg (by omega), Nat.mul_comm]

theorem parseUint64_le {text : Bytes} {max value : Nat} (parsed : parseUint64 text max = some value) :
    value ≤ max := by
  unfold parseUint64 at parsed
  split at parsed
  · cases parsed
  · rename_i hsome
    obtain rfl | ⟨digits, digit, rfl⟩ := eq_nil_or_concat text
    · exact absurd (Or.inl rfl) hsome
    -- the last digit was checked too
    · rw [concat_eq_append, foldl_concat] at parsed
      obtain ⟨before, -, hdigit⟩ := Option.bind_eq_some_iff.mp parsed
      simp only [Option.ite_none_left_eq_some, Option.some.injEq] at hdigit
      omega

theorem parsePort_print (scheme : Bytes) {port : UInt16} (nonzero : port ≠ 0) :
    parsePort scheme (uint64ToString port.toNat) = some port := by
  have hlt := port.toNat_lt
  have hnonzero : port.toNat ≠ 0 := fun hzero => nonzero (UInt16.toNat_inj.mp hzero)
  rw [parsePort, if_neg (uint64ToString_ne_nil _), parseUint64_toDigits (by omega) (by decide), Option.bind_some,
    if_neg hnonzero, UInt16.ofNat_toNat]

theorem parsePort_facts {scheme portText : Bytes} {port : UInt16}
    (parsed : parsePort scheme portText = some port) : port ≠ 0 ∧
      (port = defaultPort scheme ↔ portText = [] ∨
        parseUint64 portText 65535 = some (defaultPort scheme).toNat) := by
  have hdefault : defaultPort scheme ≠ 0 := by
    unfold defaultPort
    split <;> decide
  unfold parsePort at parsed
  split at parsed
  · rename_i hempty
    cases parsed
    exact ⟨hdefault, iff_of_true rfl (.inl hempty)⟩
  · rename_i hsome
    obtain ⟨number, hnumber, hport⟩ := Option.bind_eq_some_iff.mp parsed
    split at hport
    · cases hport
    · rename_i hnonzero
      cases hport
      have hle := parseUint64_le hnumber
      have htoNat : (UInt16.ofNat number).toNat = number := UInt16.toNat_ofNat_of_lt (show number < 2 ^ 16 by omega)
      rw [hnumber, or_iff_right hsome, Option.some.injEq, ← UInt16.toNat_inj, htoNat]
      refine ⟨fun hzero => hnonzero ?_, Iff.rfl⟩
      rw [← htoNat, hzero]
      rfl

section

variable {scheme authority front portText host : Bytes} {port : UInt16}

theorem splitAuthority_bracketed {inner : Bytes} (opens : (inner ++ [0x5D]).head? = some 0x5B)
    (fresh : 0x5D ∉ inner) :
    splitAuthority (inner ++ [0x5D]) = .ok (inner ++ [0x5D], []) ∧
      splitAuthority (inner ++ [0x5D] ++ 0x3A :: portText) = .ok (inner ++ [0x5D], portText) := by
  have hall : ∀ byte ∈ inner, decide (byte ≠ 0x5D) = true := by
    intro byte member
    rw [decide_eq_true_eq]
    rintro rfl
    exact fresh member
  have hhead : (inner ++ [0x5D] ++ 0x3A :: portText).head? = some 0x5B := by
    rw [head?_append, opens]
    rfl
  constructor
  · rw [splitAuthority, if_pos opens, if_pos (by simp), takeWhile_append_of_pos hall,
      dropWhile_append_of_pos hall]
    simp
  · rw [splitAuthority, if_pos hhead, if_pos (by simp), append_assoc,
      takeWhile_append_of_pos hall, dropWhile_append_of_pos hall]
    simp

theorem splitAuthority_port (opens : front.head? ≠ some 0x5B) (some : front ≠ [])
    (fresh : 0x3A ∉ portText) :
    splitAuthority (front ++ 0x3A :: portText) = .ok (front, portText) := by
  have hhead : (front ++ 0x3A :: portText).head? ≠ .some 0x5B := by
    rw [head?_append_of_ne_nil _ some]
    exact opens
  rw [splitAuthority, if_neg hhead, if_pos (by simp), cutLastColon_append fresh]

theorem splitAuthority_plain (opens : authority.head? ≠ some 0x5B) (fresh : 0x3A ∉ authority) :
    splitAuthority authority = .ok (authority, []) := by
  rw [splitAuthority, if_neg opens, if_neg fresh]

/-- The three forms of an authority. -/
theorem splitAuthority_ok (split : splitAuthority authority = .ok (front, portText)) :
    (authority.head? = some 0x5B ∧ front.head? = some 0x5B ∧
      ∃ inner, front = inner ++ [0x5D] ∧ 0x5D ∉ inner) ∨
    (authority.head? ≠ some 0x5B ∧ 0x3A ∉ authority ∧ authority = front ∧ portText = []) ∨
    (authority.head? ≠ some 0x5B ∧ 0x3A ∉ portText ∧ authority = front ++ 0x3A :: portText) := by
  unfold splitAuthority at split
  by_cases hopens : authority.head? = some 0x5B
  · rw [if_pos hopens] at split
    split at split
    · rename_i hcloses
      have hfront : front = authority.takeWhile (· ≠ 0x5D) ++ [0x5D] := by
        dsimp only at split
        split at split
        · cases split
          rfl
        · split at split
          · cases split
          · cases split
            rfl
      refine .inl ⟨hopens, ?_, _, hfront, fun member => ?_⟩
      · rw [hfront]
        cases authority with
        | nil => cases hopens
        | cons byte rest =>
          cases hopens
          rfl
      · have hbyte := mem_takeWhile_imp member
        exact absurd hbyte (by decide)
    · cases split
  · rw [if_neg hopens] at split
    split at split
    · rename_i hcolon
      obtain ⟨before, after, rfl, hfresh⟩ := exists_last_colon hcolon
      rw [cutLastColon_append hfresh] at split
      cases split
      exact .inr (.inr ⟨hopens, hfresh, rfl⟩)
    · rename_i hcolon
      cases split
      exact .inr (.inl ⟨hopens, hcolon, rfl, rfl⟩)

theorem parseAuthority_ok_iff : parseAuthority scheme authority = .ok (host, port) ↔
    ∃ front portText, splitAuthority authority = .ok (front, portText) ∧ front ≠ [] ∧
      (∀ c ∈ front, validHostChar c = true) ∧ parsePort scheme portText = some port ∧
        host = toLowerAscii front := by
  unfold parseAuthority
  cases splitAuthority authority with
  | error reason => exact ⟨nofun, nofun⟩
  | ok found =>
    obtain ⟨front, portText⟩ := found
    have hany : front.any (!validHostChar ·) = true ↔ ¬∀ c ∈ front, validHostChar c = true := by
      simp
    change (if front = [] then _ else if _ then _ else _) = _ ↔ _
    rw [guard_ok, guard_ok, hany, not_not]
    constructor
    · rintro ⟨hsome, hvalid, parsed⟩
      split at parsed
      · cases parsed
      · rename_i hport
        cases parsed
        exact ⟨front, portText, rfl, hsome, hvalid, hport, rfl⟩
    · rintro ⟨_, _, hsplit, hsome, hvalid, hport, rfl⟩
      cases hsplit
      rw [hport]
      exact ⟨hsome, hvalid, rfl⟩

end

def hostPort (scheme host : Bytes) (port : UInt16) : Bytes :=
  if port = defaultPort scheme then host else host ++ 0x3A :: uint64ToString port.toNat

/-- A host and a port that can be read from an authority. -/
structure Readable (host : Bytes) (port : UInt16) : Prop where
  some : host ≠ []
  valid : ∀ c ∈ host, validHostChar c = true
  lower : toLowerAscii host = host
  closed : host.head? = .some 0x5B → ∃ inner, host = inner ++ [0x5D] ∧ 0x5D ∉ inner
  port : port ≠ 0

/-- The colon in the host is taken for that of the port when the port is left out. -/
structure Confusable (scheme host : Bytes) (port : UInt16) : Prop where
  plain : host.head? ≠ some 0x5B
  colon : 0x3A ∈ host
  default : port = defaultPort scheme

/-- An authority that is not in brackets has a colon before its last one, and what is behind that
is nothing or the port that is the default. -/
structure AmbiguousParts (scheme front portText : Bytes) : Prop where
  fresh : 0x3A ∉ portText
  plain : front.head? ≠ some 0x5B
  colon : 0x3A ∈ front
  default : portText = [] ∨ parseUint64 portText 65535 = some (defaultPort scheme).toNat

section

variable {scheme authority host : Bytes} {port : UInt16}

theorem head?_toLowerAscii (front : Bytes) :
    (toLowerAscii front).head? = some 0x5B ↔ front.head? = some 0x5B := by
  cases front with
  | nil => exact Iff.rfl
  | cons c rest =>
    rw [toLowerAscii, map_cons, head?_cons, head?_cons, Option.some.injEq, Option.some.injEq]
    exact (lower_facts c).2.2.2.1

theorem parseAuthority_ok (parsed : parseAuthority scheme authority = .ok (host, port)) :
    Readable host port ∧ (Confusable scheme host port ↔ ∃ front portText,
      authority = front ++ 0x3A :: portText ∧ AmbiguousParts scheme front portText) := by
  obtain ⟨front, portText, hsplit, hsome, hvalid, hport, rfl⟩ := parseAuthority_ok_iff.mp parsed
  obtain ⟨hnonzero, hdefault⟩ := parsePort_facts hport
  have hcases := splitAuthority_ok hsplit
  have hcolon := mem_toLowerAscii (fun c => (lower_facts c).2.2.1) front
  refine ⟨⟨by rwa [toLowerAscii, Ne, map_eq_nil_iff], ?_, ?_, ?_, hnonzero⟩, ?_, ?_⟩
  · intro c member
    obtain ⟨d, hd, rfl⟩ := mem_map.mp member
    rw [(lower_facts d).2.1]
    exact hvalid d hd
  · rw [toLowerAscii, toLowerAscii, map_map]
    exact map_congr_left fun c _ => (lower_facts c).1
  · intro hopens
    have hfront := (head?_toLowerAscii front).mp hopens
    obtain ⟨-, -, inner, rfl, hfresh⟩ | ⟨hplain, -, rfl, -⟩ | ⟨hplain, -, rfl⟩ := hcases
    · refine ⟨toLowerAscii inner, map_append, ?_⟩
      rwa [mem_toLowerAscii fun c => (lower_facts c).2.2.2.2]
    · exact absurd hfront hplain
    · rw [head?_append_of_ne_nil _ hsome] at hplain
      exact absurd hfront hplain
  · rintro ⟨hplain, hinside, rfl⟩
    rw [Ne, head?_toLowerAscii] at hplain
    rw [hcolon] at hinside
    obtain ⟨-, hopens, -⟩ | ⟨-, hnone, rfl, -⟩ | ⟨-, hfresh, rfl⟩ := hcases
    · exact absurd hopens hplain
    · exact absurd hinside hnone
    · exact ⟨front, portText, rfl, hfresh, hplain, hinside, hdefault.mp rfl⟩
  · rintro ⟨before, after, rfl, hafter, hplain, hinside, hempty⟩
    have hhead : (before ++ 0x3A :: after).head? = before.head? :=
      head?_append_of_ne_nil _ (ne_nil_of_mem hinside)
    rw [splitAuthority_port hplain (ne_nil_of_mem hinside) hafter] at hsplit
    cases hsplit
    exact ⟨by rwa [Ne, head?_toLowerAscii], hcolon.mpr hinside, hdefault.mpr hempty⟩

theorem not_mem_uint64ToString (value : Nat) : 0x3A ∉ uint64ToString value :=
  fun member => (isDigit_plain (Term.digit_toDigits member)).2.2 rfl

theorem parseAuthority_hostPort_iff (readable : Readable host port) :
    parseAuthority scheme (hostPort scheme host port) = .ok (host, port) ↔
      ¬Confusable scheme host port := by
  have hread : ∀ {authority portText}, splitAuthority authority = .ok (host, portText) →
      parsePort scheme portText = some port → parseAuthority scheme authority = .ok (host, port) :=
    fun hsplit hport => parseAuthority_ok_iff.mpr
      ⟨host, _, hsplit, readable.some, readable.valid, hport, readable.lower.symm⟩
  have hprinted := parsePort_print scheme readable.port
  have hdigits := not_mem_uint64ToString port.toNat
  constructor
  · rintro parsed ⟨hplain, hcolon, rfl⟩
    rw [hostPort, if_pos rfl] at parsed
    obtain ⟨front, portText, hsplit, -, -, -, hhost⟩ := parseAuthority_ok_iff.mp parsed
    have hlength := congrArg length hhost
    rw [toLowerAscii, length_map] at hlength
    obtain ⟨hopens, -⟩ | ⟨-, hnone, -⟩ | ⟨-, -, heq⟩ := splitAuthority_ok hsplit
    · exact hplain hopens
    · exact hnone hcolon
    · rw [heq, length_append, length_cons] at hlength
      omega
  · intro clear
    by_cases hdefault : port = defaultPort scheme
    · rw [hostPort, if_pos hdefault]
      have hport : parsePort scheme [] = some port := by rw [parsePort, if_pos rfl, hdefault]
      by_cases hopens : host.head? = some 0x5B
      · obtain ⟨inner, hinner, hfresh⟩ := readable.closed hopens
        refine hread ?_ hport
        rw [hinner] at hopens ⊢
        exact (@splitAuthority_bracketed [] inner hopens hfresh).1
      · exact hread (splitAuthority_plain hopens fun hcolon => clear ⟨hopens, hcolon, hdefault⟩) hport
    · rw [hostPort, if_neg hdefault]
      by_cases hopens : host.head? = some 0x5B
      · obtain ⟨inner, hinner, hfresh⟩ := readable.closed hopens
        refine hread ?_ hprinted
        rw [hinner] at hopens ⊢
        exact (splitAuthority_bracketed hopens hfresh).2
      · exact hread (splitAuthority_port hopens readable.some hdigits) hprinted

theorem Readable.plain (scheme : Bytes) (readable : Readable host port) :
    hostPort scheme host port ≠ [] ∧
      ∀ c ∈ hostPort scheme host port, endsAuthority c = false ∧ c ≠ 0x40 := by
  have hhost : ∀ c ∈ host, endsAuthority c = false ∧ c ≠ 0x40 :=
    fun c member => validHostChar_plain (readable.valid c member)
  unfold hostPort
  split
  · exact ⟨readable.some, hhost⟩
  · refine ⟨append_ne_nil_of_left_ne_nil readable.some _, fun c member => ?_⟩
    obtain member | member := mem_append.mp member
    · exact hhost c member
    · obtain rfl | member := mem_cons.mp member
      · decide
      · obtain ⟨hend, hat, -⟩ := isDigit_plain (Term.digit_toDigits member)
        exact ⟨hend, hat⟩

end

theorem Url.origin_eq {url : Url} (readable : Readable url.host url.port) :
    url.origin = url.scheme ++ (utf8Bytes "://" ++ hostPort url.scheme url.host url.port) := by
  have hdefault : url.defaultPort = decide (url.port = Net.defaultPort url.scheme) := by
    unfold Url.defaultPort Url.secure Net.defaultPort
    cases isSecure url.scheme <;> simp
  unfold Url.origin hostPort
  rw [hdefault]
  by_cases heq : url.port = Net.defaultPort url.scheme
  · simp [heq]
  · simp [heq, readable.port]

def printed (authority path query : Bytes) : Bytes :=
  authority ++ (path ++ if query = [] then [] else 0x3F :: query)

theorem Url.toString_eq {url : Url} (readable : Readable url.host url.port) (path : url.path ≠ []) :
    url.toString = url.scheme ++ (utf8Bytes "://" ++
      printed (hostPort url.scheme url.host url.port) url.path url.query) := by
  unfold Url.toString Url.requestTarget printed
  rw [Url.origin_eq readable, if_neg path]
  by_cases hquery : url.query = []
  · simp [hquery]
  · simp [hquery]

theorem cut_scheme {scheme : Bytes} (known : scheme ∈ schemes) (rest : Bytes) :
    cut (utf8Bytes "://") (scheme ++ (utf8Bytes "://" ++ rest)) = some (scheme, rest) :=
  cut_append rest (schemes_plain scheme known).2

theorem takeWhile_all (keep : UInt8 → Bool) {text : Bytes} (all : ∀ c ∈ text, keep c = true)
    (rest : Bytes) (stop : ∀ c ∈ rest.head?, keep c = false) :
    (text ++ rest).takeWhile keep = text ∧ (text ++ rest).dropWhile keep = rest := by
  rw [takeWhile_append_of_pos all, dropWhile_append_of_pos all]
  cases rest with
  | nil => exact ⟨append_nil _, rfl⟩
  | cons c rest =>
    have hstop : ¬keep c = true := by simp [stop c rfl]
    rw [takeWhile_cons_of_neg hstop, dropWhile_cons_of_neg hstop]
    exact ⟨append_nil _, rfl⟩

/-- The marks that end a path or a query. -/
structure PlainTarget (path query : Bytes) : Prop where
  absolute : path.head? = some 0x2F
  path : ∀ c ∈ path, c ≠ 0x3F ∧ c ≠ 0x23
  query : 0x23 ∉ query

section

variable {scheme authority path query text : Bytes} {url : Url}

theorem PlainTarget.ne_nil (plain : PlainTarget path query) : path ≠ [] := by
  rintro rfl
  cases plain.absolute

theorem PlainTarget.splitTarget (plain : PlainTarget path query) :
    splitTarget (path ++ if query = [] then [] else 0x3F :: query) = (path, query) := by
  have hplain : ∀ c ∈ path ++ (if query = [] then [] else 0x3F :: query),
      decide (c ≠ 0x23) = true := by
    intro c member
    rw [decide_eq_true_eq]
    rintro rfl
    obtain member | member := mem_append.mp member
    · exact (plain.path _ member).2 rfl
    · split at member
      · cases member
      · obtain heq | member := mem_cons.mp member
        · exact absurd heq (by decide)
        · exact plain.query member
  have hfragment := takeWhile_all _ hplain [] (fun c member => by cases member)
  have hpath := takeWhile_all (· ≠ 0x3F)
    (fun c member => decide_eq_true (plain.path c member).1)
    (if query = [] then [] else 0x3F :: query) (by
      split
      · rintro _ ⟨⟩
      · rintro _ ⟨⟩
        decide)
  have hquery : (if query = [] then [] else 0x3F :: query).drop 1 = query := by
    split
    · rename_i hempty
      rw [hempty, drop_nil]
    · rfl
  rw [append_nil] at hfragment
  simp only [Net.splitTarget, hfragment.1, hpath.1, hpath.2, hquery, if_neg plain.ne_nil]

theorem plain_splitTarget {remainder : Bytes}
    (absolute : (splitTarget remainder).1.head? = some 0x2F) :
    PlainTarget (splitTarget remainder).1 (splitTarget remainder).2 := by
  have hmarks : ∀ c ∈ remainder.takeWhile (· ≠ 0x23), c ≠ 0x23 := by
    intro c member
    simpa using mem_takeWhile_imp member
  refine ⟨absolute, fun c member => ?_, fun member => ?_⟩
  · unfold Net.splitTarget at member
    dsimp only at member
    split at member
    · obtain rfl := mem_singleton.mp member
      decide
    · exact ⟨by simpa using mem_takeWhile_imp member,
        hmarks c (( takeWhile_prefix _).subset member)⟩
  · exact hmarks _ ((dropWhile_suffix _).subset (mem_of_mem_drop member)) rfl

theorem parseUrl_print (known : scheme ∈ schemes) (some : authority ≠ [])
    (plain : ∀ c ∈ authority, endsAuthority c = false ∧ c ≠ 0x40)
    (target : PlainTarget path query) :
    parseUrl (scheme ++ (utf8Bytes "://" ++ printed authority path query)) =
      (parseAuthority scheme authority).map fun found =>
        { scheme, host := found.1, port := found.2, path, query } := by
  have hkept : ∀ c ∈ authority, (!endsAuthority c) = true := by
    intro c member
    rw [(plain c member).1]
    rfl
  have hauthority := takeWhile_all (!endsAuthority ·) hkept
    (path ++ if query = [] then [] else 0x3F :: query) (by
      rw [head?_append, target.absolute]
      rintro _ ⟨⟩
      decide)
  simp only [parseUrl, authorityOf, cut_scheme known, Option.map_some, printed, hauthority.1,
    hauthority.2, (schemes_plain scheme known).1, if_neg (not_not.mpr known), if_neg some,
    if_neg fun member => (plain _ member).2 rfl]
  cases parseAuthority scheme authority with
  | error reason => rfl
  | ok found =>
    simp only [bind, Except.bind, target.splitTarget, target.absolute, ne_eq, not_true_eq_false,
      if_false]
    rfl

theorem parseUrl_ok (parsed : parseUrl text = .ok url) :
    ∃ authority remainder, authorityOf text = some (url.scheme, authority, remainder) ∧
      url.scheme ∈ schemes ∧ parseAuthority url.scheme authority = .ok (url.host, url.port) ∧
      PlainTarget url.path url.query := by
  unfold parseUrl at parsed
  split at parsed
  · cases parsed
  · rename_i scheme authority remainder hauthority
    rw [guard_ok, guard_ok, guard_ok] at parsed
    obtain ⟨hknown, -, -, parsed⟩ := parsed
    cases hfound : parseAuthority scheme authority with
    | error reason =>
      rw [hfound] at parsed
      cases parsed
    | ok found =>
      rw [hfound] at parsed
      obtain ⟨habsolute, heq⟩ := guard_ok.mp parsed
      cases heq
      exact ⟨authority, remainder, hauthority, not_not.mp hknown, hfound,
        plain_splitTarget (not_not.mp habsolute)⟩

/-- What a text says of its authority. -/
def Ambiguous (text : Bytes) : Prop :=
  ∃ scheme front portText remainder,
    authorityOf text = some (scheme, front ++ 0x3A :: portText, remainder) ∧
      AmbiguousParts scheme front portText

theorem parseUrl_facts (parsed : parseUrl text = .ok url) : Readable url.host url.port ∧
      (Ambiguous text ↔ Confusable url.scheme url.host url.port) ∧
      (parseUrl url.toString = .ok url ↔ ¬Confusable url.scheme url.host url.port) := by
  obtain ⟨authority, remainder, hauthority, hknown, hread, htarget⟩ := parseUrl_ok parsed
  obtain ⟨hreadable, hconfusable⟩ := parseAuthority_ok hread
  refine ⟨hreadable, ?_, ?_⟩
  · rw [hconfusable]
    constructor
    · rintro ⟨scheme, front, portText, _, heq, hparts⟩
      rw [hauthority] at heq
      cases heq
      exact ⟨front, portText, rfl, hparts⟩
    · rintro ⟨front, portText, rfl, hparts⟩
      exact ⟨_, front, portText, remainder, hauthority, hparts⟩
  · obtain ⟨hsome, hplain⟩ := hreadable.plain url.scheme
    rw [Url.toString_eq hreadable htarget.ne_nil, parseUrl_print hknown hsome hplain htarget,
      ← parseAuthority_hostPort_iff hreadable]
    cases parseAuthority url.scheme (hostPort url.scheme url.host url.port) with
    | error reason => exact ⟨nofun, nofun⟩
    | ok found =>
      constructor
      · intro heq
        have hurl := Except.ok.inj heq
        exact congrArg Except.ok (Prod.ext (congrArg Url.host hurl) (congrArg Url.port hurl))
      · intro heq
        rw [Except.ok.inj heq]
        rfl

theorem origin_inj {other : Bytes} {found : Url} (parsed : parseUrl text = .ok url)
    (parsedOther : parseUrl other = .ok found) (same : url.origin = found.origin) :
    url.scheme = found.scheme ∧ hostPort url.scheme url.host url.port =
      hostPort found.scheme found.host found.port := by
  obtain ⟨-, -, -, hknown, -⟩ := parseUrl_ok parsed
  obtain ⟨-, -, -, hknownOther, -⟩ := parseUrl_ok parsedOther
  have hcut := congrArg (cut (utf8Bytes "://")) same
  rw [Url.origin_eq (parseUrl_facts parsed).1, Url.origin_eq (parseUrl_facts parsedOther).1,
    cut_scheme hknown, cut_scheme hknownOther] at hcut
  have hpair := Option.some.inj hcut
  exact ⟨congrArg Prod.fst hpair, congrArg Prod.snd hpair⟩

/-- What is accepted is well formed, and its request target is read as its path and query. -/
theorem parseUrl_wellFormed (parsed : parseUrl text = .ok url) :
    url.scheme ∈ schemes ∧ url.host ≠ [] ∧ (∀ c ∈ url.host, validHostChar c = true) ∧
      toLowerAscii url.host = url.host ∧ url.port ≠ 0 ∧ url.path.head? = some 0x2F ∧
      Net.splitTarget url.requestTarget = (url.path, url.query) := by
  obtain ⟨authority, remainder, -, hknown, hread, htarget⟩ := parseUrl_ok parsed
  have hreadable := (parseAuthority_ok hread).1
  refine ⟨hknown, hreadable.some, hreadable.valid, hreadable.lower, hreadable.port,
    htarget.absolute, ?_⟩
  rw [← htarget.splitTarget]
  unfold Url.requestTarget
  rw [if_neg htarget.ne_nil]
  by_cases hquery : url.query = []
  · simp [hquery]
  · simp [hquery]

theorem parseUrl_wellFormed_fragment : ∃ url, parseUrl (utf8Bytes "HTTP://H?b#c") = .ok url ∧
    Net.splitTarget url.requestTarget = (url.path, url.query) :=
  have hparsed : parseUrl (utf8Bytes "HTTP://H?b#c") =
      .ok ⟨utf8Bytes "http", utf8Bytes "h", 80, utf8Bytes "/", utf8Bytes "b"⟩ := by decide
  ⟨_, hparsed, (parseUrl_wellFormed hparsed).2.2.2.2.2.2⟩

end

/-- An accepted text is read again from what is printed of it, and an origin names one endpoint,
exactly as far as no text is ambiguous: among texts of one origin those name the same endpoint
that are both ambiguous or both not. -/
theorem urls_round_trip_iff (text : Bytes) : (∀ url, parseUrl text = .ok url →
      (parseUrl url.toString = .ok url ↔ ¬Ambiguous text)) ∧
    ∀ other url found, parseUrl text = .ok url → parseUrl other = .ok found →
      url.origin = found.origin →
        ((url.scheme = found.scheme ∧ url.host = found.host ∧ url.port = found.port) ↔
          (Ambiguous text ↔ Ambiguous other)) := by
  refine ⟨fun url parsed => ?_, fun other url found parsed parsedOther same => ?_⟩
  · obtain ⟨-, hambiguous, hround⟩ := parseUrl_facts parsed
    rw [hambiguous, hround]
  · obtain ⟨hreadable, hambiguous, -⟩ := parseUrl_facts parsed
    obtain ⟨hother, hambiguousOther, -⟩ := parseUrl_facts parsedOther
    obtain ⟨hscheme, hsame⟩ := origin_inj parsed parsedOther same
    rw [hambiguous, hambiguousOther]
    constructor
    · rintro ⟨-, hhost, hport⟩
      rw [hscheme, hhost, hport]
    · intro hboth
      refine ⟨hscheme, ?_⟩
      rw [hscheme] at hboth hsame
      by_cases hconfusable : Confusable found.scheme url.host url.port
      · have hfound := hboth.mp hconfusable
        rw [hostPort, hostPort, if_pos hconfusable.default, if_pos hfound.default] at hsame
        exact ⟨hsame, hconfusable.default.trans hfound.default.symm⟩
      · have hread := (parseAuthority_hostPort_iff hreadable).mpr hconfusable
        have hreadOther := (parseAuthority_hostPort_iff hother).mpr fun h => hconfusable (hboth.mpr h)
        rw [hsame, hreadOther] at hread
        have hpair := Except.ok.inj hread
        exact ⟨(congrArg Prod.fst hpair).symm, (congrArg Prod.snd hpair).symm⟩

/-- The port that is left out is taken from the host, so that two endpoints share an origin. -/
theorem default_port_confused : ∃ url found,
    parseUrl (utf8Bytes "https://relay:80:443") = .ok url ∧
      parseUrl (utf8Bytes "https://relay:80") = .ok found ∧
      parseUrl url.toString = .ok found ∧ url.origin = found.origin ∧
      url.host ≠ found.host ∧ url.port ≠ found.port :=
  ⟨⟨utf8Bytes "https", utf8Bytes "relay:80", 443, utf8Bytes "/", []⟩,
    ⟨utf8Bytes "https", utf8Bytes "relay", 80, utf8Bytes "/", []⟩,
    by decide, by decide, by decide, by decide, by decide, by decide⟩

end Hypeterm.Android.Net
