import Handin.Text.Utf8

namespace Handin.Text.Base64

def sign (n : Nat) : Char :=
  if n < 26 then Char.ofNat (65 + n)
  else if n < 52 then Char.ofNat (71 + n)
  else if n < 62 then Char.ofNat (n - 4)
  else if n = 62 then '+'
  else '/'

def encode : Bytes → List Char
  | [] => []
  | [a] => [sign (a.toNat / 4), sign (a.toNat % 4 * 16), '=', '=']
  | [a, b] =>
    [sign (a.toNat / 4), sign (a.toNat % 4 * 16 + b.toNat / 16), sign (b.toNat % 16 * 4), '=']
  | a :: b :: c :: rest =>
    [sign (a.toNat / 4), sign (a.toNat % 4 * 16 + b.toNat / 16),
      sign (b.toNat % 16 * 4 + c.toNat / 64), sign (c.toNat % 64)] ++ encode rest

theorem encode_length : ∀ b : Bytes, (encode b).length = (b.length + 2) / 3 * 4
  | [] => rfl
  | [_] => by simp [encode]
  | [_, _] => by simp [encode]
  | _ :: _ :: _ :: rest => by
    simp only [encode, List.length_append, List.length_cons, List.length_nil, encode_length rest]
    omega

end Handin.Text.Base64
