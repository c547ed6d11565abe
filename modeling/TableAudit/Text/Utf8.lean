/-!
# Reading UTF-8

The characters of a byte sequence, or the position of the first byte that belongs to none.
-/

namespace TableAudit.Text

def isContinuation (b : UInt8) : Bool := 0x80 ≤ b && b < 0xc0

def payload (b : UInt8) : Nat := b.toNat % 0x40

/-- One character at the head of a byte sequence, and the bytes behind it. Every character has one
encoding, the shortest; surrogates have none. -/
def decodeChar : List UInt8 → Option (Char × List UInt8)
  | [] => none
  | a :: rest =>
    if a < 0x80 then some (Char.ofNat a.toNat, rest)
    else
      match rest with
      | b :: rest =>
        if !isContinuation b then none
        else if 0xc2 ≤ a && a < 0xe0 then
          some (Char.ofNat ((a.toNat - 0xc0) * 0x40 + payload b), rest)
        else
          match rest with
          | c :: rest =>
            if !isContinuation c then none
            else if 0xe0 ≤ a && a < 0xf0 then
              let n := ((a.toNat - 0xe0) * 0x40 + payload b) * 0x40 + payload c
              if n < 0x800 || (0xd800 ≤ n && n < 0xe000) then none else some (Char.ofNat n, rest)
            else
              match rest with
              | d :: rest =>
                if !isContinuation d then none
                else if 0xf0 ≤ a && a < 0xf5 then
                  let n := (((a.toNat - 0xf0) * 0x40 + payload b) * 0x40 + payload c) * 0x40 +
                    payload d
                  if n < 0x10000 || n ≥ 0x110000 then none else some (Char.ofNat n, rest)
                else none
              | [] => none
          | [] => none
      | [] => none

/-- Decodes with fuel for every byte; `position` is where the bytes start. -/
def decodeFrom : Nat → Nat → List UInt8 → Except Nat (List Char)
  | _, _, [] => .ok []
  | 0, position, _ :: _ => .error position
  | fuel + 1, position, bytes =>
    match decodeChar bytes with
    | none => .error position
    | some (c, rest) => (decodeFrom fuel (position + c.utf8Size) rest).map (c :: ·)

/-- The text of a byte sequence, or the position of the first byte that cannot be read. -/
def decodeUtf8 (bytes : List UInt8) : Except Nat String :=
  (decodeFrom bytes.length 0 bytes).map String.ofList

def encodeUtf8 (s : String) : List UInt8 := s.toUTF8.toList

end TableAudit.Text
