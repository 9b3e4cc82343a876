import Mathlib.Data.List.TakeWhile
import Hypeterm.Settings.Value

/-! Textual network addresses, read as the standard library of the source reads
them: a reader consumes a piece of the input or fails and consumes nothing, and
a parse succeeds when a reader consumed all of it. -/
namespace Hypeterm.Settings.Net

open List Option

inductive IpAddr where
  | v4 (octets : List Nat)
  | v6 (groups : List Nat)
  deriving DecidableEq

def IpAddr.isIpv4 : IpAddr → Bool
  | .v4 _ => true
  | .v6 _ => false

def toDigit (radix : Nat) (c : Char) : Option Nat :=
  let value :=
    if '0' ≤ c ∧ c ≤ '9' then some (c.toNat - '0'.toNat)
    else if 'a' ≤ c ∧ c ≤ 'z' then some (c.toNat - 'a'.toNat + 10)
    else if 'A' ≤ c ∧ c ≤ 'Z' then some (c.toNat - 'A'.toNat + 10)
    else none
  value.filter (· < radix)

def digitsValue (radix : Nat) (digits : List Char) : Nat :=
  digits.foldl (fun value c => value * radix + (toDigit radix c).getD 0) 0

def readNumber (radix : Nat) (maxDigits : Option Nat) (allowZeroPrefix : Bool) (bound : Nat)
    (input : List Char) : Option (Nat × List Char) :=
  let digits := input.takeWhile fun c => (toDigit radix c).isSome
  let value := digitsValue radix digits
  if digits.isEmpty || maxDigits.any (· < digits.length) then none
  else if !allowZeroPrefix && digits.head? = some '0' && 1 < digits.length then none
  else if value < bound then some (value, input.drop digits.length)
  else none

def readGivenChar (c : Char) : List Char → Option (List Char)
  | head :: rest => if head = c then some rest else none
  | [] => none

/-- Every piece but the first is preceded by the separator. -/
def readSeparator {α : Type} (separator : Char) (index : Nat)
    (inner : List Char → Option (α × List Char)) (input : List Char) : Option (α × List Char) :=
  if index = 0 then inner input else (readGivenChar separator input).bind inner

def readOctets : Nat → List Char → Option (List Nat × List Char)
  | 0, input => some ([], input)
  | remaining + 1, input => do
      let (octet, input) ← readSeparator '.' (3 - remaining) (readNumber 10 (some 3) false 256) input
      let (octets, input) ← readOctets remaining input
      pure (octet :: octets, input)

def readIpv4Addr : List Char → Option (List Nat × List Char) := readOctets 4

def groupsOfOctets : List Nat → List Nat
  | high :: low :: rest => (high * 256 + low) :: groupsOfOctets rest
  | _ => []

/-- A series of hexadecimal groups, at most `remaining` of `limit`, with an
optional embedded IPv4 address in the place of the last two. -/
def readGroups (limit : Nat) : Nat → List Char → List Nat × Bool × List Char
  | 0, input => ([], false, input)
  | remaining + 1, input =>
      let index := limit - (remaining + 1)
      let embedded :=
        if index < limit - 1 then readSeparator ':' index readIpv4Addr input else none
      match embedded with
      | some (octets, input) => (groupsOfOctets octets, true, input)
      | none =>
          match readSeparator ':' index (readNumber 16 (some 4) true 65536) input with
          | none => ([], false, input)
          | some (group, input) =>
              let (groups, ipv4, input) := readGroups limit remaining input
              (group :: groups, ipv4, input)

def readIpv6Addr (input : List Char) : Option (List Nat × List Char) :=
  let (front, frontIpv4, input) := readGroups 8 8 input
  if front.length = 8 then some (front, input)
  else if frontIpv4 then none
  else do
    let input ← readGivenChar ':' input
    let input ← readGivenChar ':' input
    -- `::` stands for at least one group of zeroes.
    let limit := 8 - (front.length + 1)
    let (back, _, input) := readGroups limit limit input
    pure (front ++ List.replicate (8 - front.length - back.length) 0 ++ back, input)

def readIpAddr (input : List Char) : Option (IpAddr × List Char) :=
  match readIpv4Addr input with
  | some (octets, input) => some (.v4 octets, input)
  | none => (readIpv6Addr input).map fun (groups, input) => (.v6 groups, input)

def readPort (input : List Char) : Option (Nat × List Char) :=
  (readGivenChar ':' input).bind (readNumber 10 none true 65536)

def readScopeId (input : List Char) : Option (Nat × List Char) :=
  (readGivenChar '%' input).bind (readNumber 10 none true (2 ^ 32))

def readSocketAddrV4 (input : List Char) : Option ((IpAddr × Nat) × List Char) := do
  let (octets, input) ← readIpv4Addr input
  let (port, input) ← readPort input
  pure ((.v4 octets, port), input)

def readSocketAddrV6 (input : List Char) : Option ((IpAddr × Nat) × List Char) := do
  let input ← readGivenChar '[' input
  let (groups, input) ← readIpv6Addr input
  let input := ((readScopeId input).map Prod.snd).getD input
  let input ← readGivenChar ']' input
  let (port, input) ← readPort input
  pure ((.v6 groups, port), input)

def parseWith {α : Type} (inner : List Char → Option (α × List Char)) (input : List Char) :
    Option α :=
  match inner input with
  | some (value, []) => some value
  | _ => none

def parseIpAddr : List Char → Option IpAddr := parseWith readIpAddr

def parseSocketAddr : List Char → Option (IpAddr × Nat) :=
  parseWith fun input => (readSocketAddrV4 input).or (readSocketAddrV6 input)

/-- Decimal text of an unsigned byte, with an optional plus sign. -/
def parseU8 (input : List Char) : Option Nat :=
  let digits := (readGivenChar '+' input).getD input
  if digits.isEmpty || !digits.all fun c => (toDigit 10 c).isSome then none
  else if digitsValue 10 digits < 256 then some (digitsValue 10 digits)
  else none

def splitOnce (separator : Char) (input : List Char) : Option (List Char × List Char) :=
  match input.dropWhile (· ≠ separator) with
  | _ :: rest => some (input.takeWhile (· ≠ separator), rest)
  | [] => none

/-- Minimal CIDR parsing, used for the trusted-proxy allowlist. -/
def parseCidr (text : String) : Option (IpAddr × Nat) := do
  let (addr, bits) ← splitOnce '/' text.toList
  let ip ← parseIpAddr (trim addr)
  let bits ← parseU8 (trim bits)
  let max := if ip.isIpv4 then 32 else 128
  if max < bits then none else some (ip, bits)

def IpAddr.octets : IpAddr → List Nat
  | .v4 octets => octets
  | .v6 groups => groups.flatMap fun group => [group / 256, group % 256]

def toIpv4Mapped : List Nat → Option (List Nat)
  | [0, 0, 0, 0, 0, 65535, high, low] => some [high / 256, high % 256, low / 256, low % 256]
  | _ => none

def IpAddr.isLoopback : IpAddr → Bool
  | .v4 octets => octets.head? = some 127
  | .v6 groups => groups = [0, 0, 0, 0, 0, 0, 0, 1]

/-- The first `prefix` bits of the two addresses, byte by byte. -/
def sameBits (bits : Nat) (net cand : List Nat) : Bool :=
  let full := bits / 8
  if net.take full ≠ cand.take full then false
  else if bits % 8 = 0 then true
  else
    let mask := 255 <<< (8 - bits % 8) % 256
    net.getD full 0 &&& mask = cand.getD full 0 &&& mask

/-- Only addresses of one family are compared, after unwrapping IPv4-mapped IPv6. -/
def cidrContains (network : IpAddr) (bits : Nat) (candidate : IpAddr) : Bool :=
  match network, candidate with
  | .v4 net, .v6 groups =>
      match toIpv4Mapped groups with
      | some cand => sameBits bits net cand
      | none => false
  | .v4 net, .v4 cand => sameBits bits net cand
  | .v6 _, .v6 _ => sameBits bits network.octets candidate.octets
  | .v6 _, .v4 _ => false

theorem sameBits_self (bits : Nat) (net : List Nat) : sameBits bits net net = true := by
  simp [sameBits]

theorem cidrContains_self (network : IpAddr) (bits : Nat) :
    cidrContains network bits network = true := by
  cases network <;> simp [cidrContains, sameBits_self]

def isAddressChar (c : Char) : Bool := (toDigit 36 c).isSome || c = '.' || c = ':'

/-- What the reader consumes is written with these characters. -/
def Reads {α : Type} (reader : List Char → Option (α × List Char)) : Prop :=
  ∀ input value rest, reader input = some (value, rest) →
    ∃ used, input = used ++ rest ∧ ∀ c ∈ used, isAddressChar c = true

theorem isAddressChar_of_toDigit {radix : Nat} {c : Char} (le : radix ≤ 36)
    (digit : (toDigit radix c).isSome = true) : isAddressChar c = true := by
  obtain ⟨value, hvalue⟩ := isSome_iff_exists.mp digit
  obtain ⟨hread, hlt⟩ := filter_eq_some_iff.mp hvalue
  have hwider : toDigit 36 c = some value := by
    refine filter_eq_some_iff.mpr ⟨hread, ?_⟩
    simp only [decide_eq_true_eq] at hlt ⊢
    omega
  simp [isAddressChar, hwider]

theorem reads_readNumber {radix : Nat} (le : radix ≤ 36) (maxDigits : Option Nat)
    (allowZeroPrefix : Bool) (bound : Nat) :
    Reads (readNumber radix maxDigits allowZeroPrefix bound) := by
  intro input value rest taken
  unfold readNumber at taken
  dsimp only at taken
  split at taken
  · cases taken
  · split at taken
    · cases taken
    · split at taken
      · cases taken
        refine ⟨input.takeWhile fun c => (toDigit radix c).isSome, ?_, ?_⟩
        · exact (prefix_iff_eq_append.mp ( takeWhile_prefix _)).symm
        · intro c hc
          have hdigit := mem_takeWhile_imp hc
          exact isAddressChar_of_toDigit le hdigit
      · cases taken

theorem reads_readSeparator {α : Type} {separator : Char} {index : Nat}
    {inner : List Char → Option (α × List Char)} (plain : isAddressChar separator = true)
    (reads : Reads inner) : Reads (readSeparator separator index inner) := by
  intro input value rest taken
  unfold readSeparator at taken
  split at taken
  · exact reads input value rest taken
  · obtain ⟨after, hgiven, hinner⟩ := bind_eq_some_iff.mp taken
    obtain ⟨used, hafter, hused⟩ := reads after value rest hinner
    cases input with
    | nil => cases hgiven
    | cons head tail =>
      simp only [readGivenChar] at hgiven
      split at hgiven
      · rename_i hhead
        cases hgiven
        refine ⟨head :: used, by rw [hafter, cons_append], ?_⟩
        intro c hc
        cases mem_cons.mp hc with
        | inl hfirst => rwa [hfirst, hhead]
        | inr hrest => exact hused c hrest
      · cases hgiven

theorem exists_append {first second rest input : List Char}
    (input_eq : input = first ++ (second ++ rest))
    (first_chars : ∀ c ∈ first, isAddressChar c = true)
    (second_chars : ∀ c ∈ second, isAddressChar c = true) :
    ∃ used, input = used ++ rest ∧ ∀ c ∈ used, isAddressChar c = true := by
  refine ⟨first ++ second, by rw [input_eq, append_assoc], ?_⟩
  intro c hc
  cases mem_append.mp hc with
  | inl hfirst => exact first_chars c hfirst
  | inr hsecond => exact second_chars c hsecond

theorem reads_readOctets (remaining : Nat) : Reads (readOctets remaining) := by
  induction remaining with
  | zero =>
    intro input value rest taken
    cases taken
    exact ⟨[], rfl, by simp⟩
  | succ remaining ih =>
    intro input value rest taken
    simp only [readOctets, bind_eq_bind, bind_eq_some_iff, Prod.exists] at taken
    obtain ⟨octet, middle, hoctet, octets, after, hoctets, hdone⟩ := taken
    cases hdone
    obtain ⟨first, hinput, hfirst⟩ :=
      reads_readSeparator (by decide) (reads_readNumber (by decide) _ _ _) _ _ _ hoctet
    obtain ⟨second, hmiddle, hsecond⟩ := ih _ _ _ hoctets
    exact exists_append (hmiddle ▸ hinput) hfirst hsecond

theorem reads_readGroups (limit remaining : Nat) (input : List Char) :
    ∃ used, input = used ++ (readGroups limit remaining input).2.2 ∧
      ∀ c ∈ used, isAddressChar c = true := by
  induction remaining generalizing input with
  | zero => exact ⟨[], rfl, by simp⟩
  | succ remaining ih =>
    unfold readGroups
    dsimp only
    split
    · rename_i octets after hembedded
      split at hembedded
      · exact reads_readSeparator (by decide) (reads_readOctets 4) _ _ _ hembedded
      · cases hembedded
    · split
      · exact ⟨[], rfl, by simp⟩
      · rename_i group after hgroup
        obtain ⟨first, hinput, hfirst⟩ :=
          reads_readSeparator (by decide) (reads_readNumber (by decide) _ _ _) _ _ _ hgroup
        obtain ⟨second, hafter, hsecond⟩ := ih after
        exact exists_append (by rw [← hafter]; exact hinput) hfirst hsecond

theorem readGivenChar_eq_some {c : Char} {input rest : List Char} :
    readGivenChar c input = some rest ↔ input = c :: rest := by
  cases input with
  | nil => simp [readGivenChar]
  | cons head tail =>
    by_cases hhead : head = c
    · simp [readGivenChar, hhead]
    · simp [readGivenChar, hhead]

theorem reads_readIpv6Addr : Reads readIpv6Addr := by
  intro input value rest taken
  obtain ⟨first, hinput, hfirst⟩ := reads_readGroups 8 8 input
  rcases hfront : readGroups 8 8 input with ⟨front, frontIpv4, middle⟩
  rw [hfront] at hinput
  simp only [readIpv6Addr, hfront] at taken
  split at taken
  · cases taken
    exact ⟨first, hinput, hfirst⟩
  · split at taken
    · cases taken
    · simp only [bind_eq_bind, bind_eq_some_iff, readGivenChar_eq_some] at taken
      obtain ⟨afterFirst, hafterFirst, afterSecond, hafterSecond, hback⟩ := taken
      obtain ⟨second, hsecond_eq, hsecond⟩ := reads_readGroups (8 - (front.length + 1))
        (8 - (front.length + 1)) afterSecond
      cases hback
      refine @exists_append first (':' :: ':' :: second) _ _ ?_ hfirst ?_
      · rw [hinput, hafterFirst, hafterSecond, cons_append, cons_append, ← hsecond_eq]
      · intro c hc
        rcases mem_cons.mp hc with rfl | hc
        · rfl
        · rcases mem_cons.mp hc with rfl | hc
          · rfl
          · exact hsecond c hc

theorem reads_readIpAddr : Reads readIpAddr := by
  intro input value rest taken
  unfold readIpAddr at taken
  split at taken
  · rename_i hipv4
    cases taken
    exact reads_readOctets 4 _ _ _ hipv4
  · obtain ⟨⟨groups, after⟩, hipv6, heq⟩ := map_eq_some_iff.mp taken
    cases heq
    exact reads_readIpv6Addr _ _ _ hipv6

theorem isAddressChar_of_parseIpAddr {text : List Char} {address : IpAddr}
    (parsed : parseIpAddr text = some address) : ∀ c ∈ text, isAddressChar c = true := by
  unfold parseIpAddr parseWith at parsed
  split at parsed
  · rename_i hread
    obtain ⟨used, htext, hused⟩ := reads_readIpAddr _ _ _ hread
    rw [htext, append_nil]
    exact hused
  · cases parsed

end Hypeterm.Settings.Net
