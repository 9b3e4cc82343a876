import Mathlib.Algebra.GroupWithZero.Nat
import Hypeterm.Term.Cell

/-! The rows that scrolled off the primary screen. -/
namespace Hypeterm.Term
open Library

/-- What a row costs depends on the allocator, so it is a parameter. -/
structure Limits where
  maxLines : Nat := 10000
  maxBytes : Nat := 32 * 1024 * 1024
  memoryBytes : Line → Nat

structure Scrollback where
  limits : Limits
  lines : List Line := []
  bytes : Nat := 0
  evicted : Nat := 0
  pushed : Nat := 0
  revision : Nat := 1

namespace Scrollback

/-- Drops rows from the front of what is left until both bounds are met. -/
def trimLines (scrollback : Scrollback) : List Line → Scrollback
  | [] => { scrollback with lines := [] }
  | front :: rest =>
      if scrollback.limits.maxLines < rest.length + 1 ∨
          scrollback.limits.maxBytes < scrollback.bytes ∧ 1 < rest.length + 1 then
        trimLines
          { scrollback with
            bytes := scrollback.bytes - scrollback.limits.memoryBytes front
            evicted := scrollback.evicted + 1
            revision := scrollback.revision + 1 }
          rest
      else { scrollback with lines := front :: rest }

def trim (scrollback : Scrollback) : Scrollback := scrollback.trimLines scrollback.lines

def stored (line : Line) : Line :=
  if line.trimmedLength < line.size then line.resize line.trimmedLength {} else line

def pushLine (scrollback : Scrollback) (line : Line) : Scrollback :=
  let line := stored line
  trim
    { scrollback with
      bytes := scrollback.bytes + scrollback.limits.memoryBytes line
      lines := scrollback.lines ++ [line]
      pushed := scrollback.pushed + 1
      revision := scrollback.revision + 1 }

def clearScrollback (scrollback : Scrollback) : Scrollback :=
  if scrollback.lines = [] then scrollback
  else
    { scrollback with
      evicted := scrollback.evicted + scrollback.lines.length
      lines := []
      bytes := 0
      revision := scrollback.revision + 1 }

def replaceAll (scrollback : Scrollback) (lines : List Line) : Scrollback :=
  trim
    { scrollback with
      lines
      bytes := (lines.map scrollback.limits.memoryBytes).sum
      revision := scrollback.revision + 1 }

/-- The newest `count` rows, oldest first, and the scrollback without them. -/
def takeNewest (scrollback : Scrollback) (count : Nat) : List Line × Scrollback :=
  let count := min count scrollback.lines.length
  let taken := scrollback.lines.drop (scrollback.lines.length - count)
  (taken,
    { scrollback with
      lines := scrollback.lines.take (scrollback.lines.length - count)
      bytes := scrollback.bytes - (taken.map scrollback.limits.memoryBytes).sum
      revision := if 0 < count then scrollback.revision + 1 else scrollback.revision })

end Scrollback

end Hypeterm.Term
