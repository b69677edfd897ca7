import DocSite.Text.LetterCase

/-!
# Case folding

* `fold` maps texts that differ in case only to one text. It is the full case folding of Unicode:
  the lowercase, except for the characters of `foldings` and for Cherokee, whose small letters fold
  to the capital ones.
-/

namespace DocSite.Text

/-- Code points whose folding is not their lowercase. -/
def foldings : List (Nat × List Nat) :=
  [(0xb5, [0x3bc]), (0xdf, [0x73, 0x73]), (0x149, [0x2bc, 0x6e]), (0x17f, [0x73]),
   (0x1f0, [0x6a, 0x30c]), (0x345, [0x3b9]), (0x390, [0x3b9, 0x308, 0x301]),
   (0x3b0, [0x3c5, 0x308, 0x301]), (0x3c2, [0x3c3]), (0x3d0, [0x3b2]), (0x3d1, [0x3b8]),
   (0x3d5, [0x3c6]), (0x3d6, [0x3c0]), (0x3f0, [0x3ba]), (0x3f1, [0x3c1]), (0x3f5, [0x3b5]),
   (0x587, [0x565, 0x582]), (0x1c80, [0x432]), (0x1c81, [0x434]), (0x1c82, [0x43e]),
   (0x1c83, [0x441]), (0x1c84, [0x442]), (0x1c85, [0x442]), (0x1c86, [0x44a]), (0x1c87, [0x463]),
   (0x1c88, [0xa64b]), (0x1e96, [0x68, 0x331]), (0x1e97, [0x74, 0x308]), (0x1e98, [0x77, 0x30a]),
   (0x1e99, [0x79, 0x30a]), (0x1e9a, [0x61, 0x2be]), (0x1e9b, [0x1e61]), (0x1e9e, [0x73, 0x73]),
   (0x1f50, [0x3c5, 0x313]), (0x1f52, [0x3c5, 0x313, 0x300]), (0x1f54, [0x3c5, 0x313, 0x301]),
   (0x1f56, [0x3c5, 0x313, 0x342]), (0x1f80, [0x1f00, 0x3b9]), (0x1f81, [0x1f01, 0x3b9]),
   (0x1f82, [0x1f02, 0x3b9]), (0x1f83, [0x1f03, 0x3b9]), (0x1f84, [0x1f04, 0x3b9]),
   (0x1f85, [0x1f05, 0x3b9]), (0x1f86, [0x1f06, 0x3b9]), (0x1f87, [0x1f07, 0x3b9]),
   (0x1f88, [0x1f00, 0x3b9]), (0x1f89, [0x1f01, 0x3b9]), (0x1f8a, [0x1f02, 0x3b9]),
   (0x1f8b, [0x1f03, 0x3b9]), (0x1f8c, [0x1f04, 0x3b9]), (0x1f8d, [0x1f05, 0x3b9]),
   (0x1f8e, [0x1f06, 0x3b9]), (0x1f8f, [0x1f07, 0x3b9]), (0x1f90, [0x1f20, 0x3b9]),
   (0x1f91, [0x1f21, 0x3b9]), (0x1f92, [0x1f22, 0x3b9]), (0x1f93, [0x1f23, 0x3b9]),
   (0x1f94, [0x1f24, 0x3b9]), (0x1f95, [0x1f25, 0x3b9]), (0x1f96, [0x1f26, 0x3b9]),
   (0x1f97, [0x1f27, 0x3b9]), (0x1f98, [0x1f20, 0x3b9]), (0x1f99, [0x1f21, 0x3b9]),
   (0x1f9a, [0x1f22, 0x3b9]), (0x1f9b, [0x1f23, 0x3b9]), (0x1f9c, [0x1f24, 0x3b9]),
   (0x1f9d, [0x1f25, 0x3b9]), (0x1f9e, [0x1f26, 0x3b9]), (0x1f9f, [0x1f27, 0x3b9]),
   (0x1fa0, [0x1f60, 0x3b9]), (0x1fa1, [0x1f61, 0x3b9]), (0x1fa2, [0x1f62, 0x3b9]),
   (0x1fa3, [0x1f63, 0x3b9]), (0x1fa4, [0x1f64, 0x3b9]), (0x1fa5, [0x1f65, 0x3b9]),
   (0x1fa6, [0x1f66, 0x3b9]), (0x1fa7, [0x1f67, 0x3b9]), (0x1fa8, [0x1f60, 0x3b9]),
   (0x1fa9, [0x1f61, 0x3b9]), (0x1faa, [0x1f62, 0x3b9]), (0x1fab, [0x1f63, 0x3b9]),
   (0x1fac, [0x1f64, 0x3b9]), (0x1fad, [0x1f65, 0x3b9]), (0x1fae, [0x1f66, 0x3b9]),
   (0x1faf, [0x1f67, 0x3b9]), (0x1fb2, [0x1f70, 0x3b9]), (0x1fb3, [0x3b1, 0x3b9]),
   (0x1fb4, [0x3ac, 0x3b9]), (0x1fb6, [0x3b1, 0x342]), (0x1fb7, [0x3b1, 0x342, 0x3b9]),
   (0x1fbc, [0x3b1, 0x3b9]), (0x1fbe, [0x3b9]), (0x1fc2, [0x1f74, 0x3b9]),
   (0x1fc3, [0x3b7, 0x3b9]), (0x1fc4, [0x3ae, 0x3b9]), (0x1fc6, [0x3b7, 0x342]),
   (0x1fc7, [0x3b7, 0x342, 0x3b9]), (0x1fcc, [0x3b7, 0x3b9]), (0x1fd2, [0x3b9, 0x308, 0x300]),
   (0x1fd3, [0x3b9, 0x308, 0x301]), (0x1fd6, [0x3b9, 0x342]), (0x1fd7, [0x3b9, 0x308, 0x342]),
   (0x1fe2, [0x3c5, 0x308, 0x300]), (0x1fe3, [0x3c5, 0x308, 0x301]), (0x1fe4, [0x3c1, 0x313]),
   (0x1fe6, [0x3c5, 0x342]), (0x1fe7, [0x3c5, 0x308, 0x342]), (0x1ff2, [0x1f7c, 0x3b9]),
   (0x1ff3, [0x3c9, 0x3b9]), (0x1ff4, [0x3ce, 0x3b9]), (0x1ff6, [0x3c9, 0x342]),
   (0x1ff7, [0x3c9, 0x342, 0x3b9]), (0x1ffc, [0x3c9, 0x3b9]), (0xfb00, [0x66, 0x66]),
   (0xfb01, [0x66, 0x69]), (0xfb02, [0x66, 0x6c]), (0xfb03, [0x66, 0x66, 0x69]),
   (0xfb04, [0x66, 0x66, 0x6c]), (0xfb05, [0x73, 0x74]), (0xfb06, [0x73, 0x74]),
   (0xfb13, [0x574, 0x576]), (0xfb14, [0x574, 0x565]), (0xfb15, [0x574, 0x56b]),
   (0xfb16, [0x57e, 0x576]), (0xfb17, [0x574, 0x56d])]

/-- The folding of one character. -/
def foldChar (c : Char) : List Char :=
  let n := c.toNat
  if n < 0x80 then [c.toLower]
  else if 0x13a0 ≤ n ∧ n ≤ 0x13f5 then [c]
  else if 0x13f8 ≤ n ∧ n ≤ 0x13fd then [Char.ofNat (n - 8)]
  else if 0xab70 ≤ n ∧ n ≤ 0xabbf then [Char.ofNat (n - 38864)]
  else match foldings.lookup n with
    | some ns => ns.map Char.ofNat
    | none => lower c

/-- The folding of a text. -/
def fold (s : List Char) : List Char :=
  s.flatMap foldChar

end DocSite.Text
