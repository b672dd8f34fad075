import RepairConsole.Text.Runs
import RepairConsole.Url.Host.Composition
/-!
# Joiners

Two invisible characters say whether the letters beside them join. They may stand in a host
name only where they are seen: after a sign that kills a vowel, and the one that keeps
letters apart also between two letters that would join.
-/

namespace RepairConsole.Url.Host

namespace Joining

/-- How every code point in turn joins its neighbours: `d` on both sides, `l` with the next
one, `r` with the one before it, `t` lets them join across it. -/
def table : Text.Runs.Table :=
  [(0x0, "768.113t274.8t262.45t.t.2t.2t.9t64.11t5.d.4rdrdr5d4r13d.7dr2d21t14.2dt3r5.15d18r38dr"),
   (0x6C1, "2d9rdrdr2d2r.r8t.6t2.2t.4t2r10.3d2.d16.rt3d5r4dr9drdrdr2dr29tr11d3r15d2r4drd2r3d2r6d"),
   (0x780, "38.11t25.33d9t9.t24.4t.9t.3t.7t16.r5d2rdr10drd3r5t2.d.4d.rd26r3.d2.5dr8d9t10d3r.r2d"),
   (0x8B1, "2r6dr15d.57t55.t.t4.8t4.t3.15t2.2t29.t58.t4.6t6.t20.4t24.5t57.2t3.27t20.2t3.t11.2t"),
   (0xA83, "57.t4.8t4.3t18.4t20.8t58.t2.t.6t6.10t11.4t28.t61.t12.3t48.t3.t55.t.3t5.18t10.4t27.t"),
   (0xC82, "58.t2.t6.t5.9t13.4t26.2t57.2t4.5t7.t20.4t27.t72.5t3.6t89.t2.11t8.8t98.t2.9t11.8t72."),
   (0xF18, "2t27.t.t.t55.14t.5t.2t5.49t8.t102.4t.6t.2t2.2t25.2t4.3t16.4t13.t2.2t6.t15.t703.3t"),
   (0x1360, "946.3t29.2t30.14t18.14t55.7t8.t2.11t9.3t39.d24.96d5.2t34dt6d112.3t4.2t9.t6.7t215.2t"),
   (0x1A19, "2.3t56.t.9t.t2.8t6.13t48.84t48.t.5t.t5.t40.9t12.2t32.4t2.2t.3t56.t.2t3.t.3t58.8t2.5t"),
   (0x1C3B, "149.3t.13t.7t4.t6.t3.2t198.65t719.52t3051.4t140.t96.32t554.4t107.4t30162.4t.10t32.2t"),
   (0xA6A0, "80.2t272.t3.t4.t25.2t5.4t16.50dl81.10t18.18t13.t38.8t25.11t46.3t48.t2.4t2.2t39.t67."),
   (0xAA29, "6t2.2t2.11t3.t8.t47.t51.t.3t2.2t5.2t.t42.2t8.11t228.t2.t4.3t20270.148t622.37t952."),
   (0x101FD, "131t96.t149.10t1665.15t40.8t128.5dr.r.2r2.l5r4dl5dr3dr2.r6t4dr144.drd3r3dr2drd2rd8r"),
   (0x10B99, "16.4r2d337.l33drd12t57.5t317.2t21.r2d.10d42.6t48.3dr17d.11t3dr27.4d2r12d4t42.d.2d3r."),
   (0x10FB8, "d2r2dr2d.d2rd4.rd21l33.t54.15t41.t2.2t10.3t49.4t2.2t7.14t48.3t36.5t.9t61.t12.2t52.9t"),
   (0x111BF, "10.4t2.t95.3t2.t.2t6.t2.63t95.t3.13t16.2t57.2t3.t37.26t59.7t12.t.t.t14.31t56.8t2.3t."),
   (0x11446, "t23.t84.6t.t4.2t.2t238.6t4.2t.2t27.36t51.8t2.t.2t106.t.t2.6t.t101.t.t2.4t.9t255.9t."),
   (0x11839, "2t256.2t.t4.t144.8t4.t32.10t40.6t2.4t8.9t.6t2.3t46.13t.2t198.t.3t.t201.14t.t82.23t."),
   (0x11CAA, "7t.2t.75t49.21t.9t64.3t2.t.t347.2t11.2t52.8t2.t.t23.86t5264.t6.25t11454.12t3.3t2496."),
   (0x16AF0, "5t59.7t1048.t63.4t81.12t19629.2t4705.80t535.3t17.8t2.7t30.4t148.3t1979.55t4.50t8.t"),
   (0x1DA76, "14.t22.1125t256.256t48.7t375.18t44.4t508.4t254.2t243.t2.t7.2t5.9t466.82t34d12t")]

def kind (point : Nat) : Char := (Text.Runs.find? point table).getD '.'

/-- Whether what comes before, backwards, joins with the next letter. -/
def reachesOn (before : List Nat) : Bool :=
  match before.dropWhile (kind · == 't') with
  | [] => false
  | point :: _ => kind point == 'd' || kind point == 'l'

/-- Whether what follows joins with the letter before it. -/
def reachesBack (after : List Nat) : Bool :=
  match after.dropWhile (kind · == 't') with
  | [] => false
  | point :: _ => kind point == 'd' || kind point == 'r'

/-- Whether each joiner of a text stands in its place. `before` is what was read, backwards. -/
def areInPlace (before : List Nat) : List Nat → Bool
  | [] => true
  | point :: after =>
    let afterKiller := before.head?.any Composition.isVowelKiller
    let stands :=
      if point = 0x200D then afterKiller
      else if point = 0x200C then afterKiller || (reachesOn before && reachesBack after)
      else true
    stands && areInPlace (point :: before) after

/-! ## Examples -/

example : areInPlace [] [0x628, 0x200C, 0x628] = true := by decide +kernel

example : areInPlace [] ['a'.toNat, 0x200D, 'b'.toNat] = false := by decide +kernel

end Joining
end RepairConsole.Url.Host
