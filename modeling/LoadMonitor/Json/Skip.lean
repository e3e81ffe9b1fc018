import LoadMonitor.Json.Numeral

/-!
# Skipping JSON

Passing over a value that nobody asked for. Its structure is checked, but neither what its
strings stand for nor how large its numbers are.
-/

namespace LoadMonitor.Json

/-- Pass over a numeral. -/
def skipNumeral (bs : Bytes) : Reading Bytes := (readNumeral .malformed bs).map Prod.snd

/-- Pass over the colon after a key. -/
def skipColon (bs : Bytes) : Reading Bytes := expectBytes [byte ':'] (skipBlanks bs)

mutual

/-- Pass over a value. The number bounds the steps. -/
def skipValue : Nat → Bytes → Reading Bytes
  | 0, _ => .error .truncated
  | steps + 1, bs =>
    match skipBlanks bs with
    | [] => .error .truncated
    | b :: rest =>
      if b = byte 'n' then expectBytes nullRest rest
      else if b = byte 't' then expectBytes trueRest rest
      else if b = byte 'f' then expectBytes falseRest rest
      else if b = byte '"' then skipString rest
      else if b = byte '[' then skipItems steps true rest
      else if b = byte '\x7b' then skipMembers steps true rest
      else if b = byte '-' || isDigit b then skipNumeral (b :: rest)
      else .error .malformed

/-- Pass over what is left of a sequence. -/
def skipItems : Nat → Bool → Bytes → Reading Bytes
  | 0, _, _ => .error .truncated
  | steps + 1, isFirst, bs =>
    match skipBlanks bs with
    | [] => .error .truncated
    | b :: rest =>
      if b = byte ']' then .ok rest
      else if isFirst then do skipItems steps false (← skipValue steps (b :: rest))
      else if b = byte ',' then do skipItems steps false (← skipValue steps rest)
      else .error .malformed

/-- Pass over what is left of an object. -/
def skipMembers : Nat → Bool → Bytes → Reading Bytes
  | 0, _, _ => .error .truncated
  | steps + 1, isFirst, bs =>
    match skipBlanks bs with
    | [] => .error .truncated
    | b :: rest =>
      if b = byte '\x7d' then .ok rest
      else if isFirst then do skipMembers steps false (← skipMember steps (b :: rest))
      else if b = byte ',' then do skipMembers steps false (← skipMember steps rest)
      else .error .malformed

/-- Pass over a member of an object. -/
def skipMember : Nat → Bytes → Reading Bytes
  | 0, _ => .error .truncated
  | steps + 1, bs => do
    let rest ← expectBytes [byte '"'] (skipBlanks bs)
    let rest ← skipString rest
    let rest ← skipColon rest
    skipValue steps rest

end

end LoadMonitor.Json
