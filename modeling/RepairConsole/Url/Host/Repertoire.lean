import RepairConsole.Text.Runs
/-!
# The repertoire of host names

The characters that a host name may hold as they stand, as Unicode's standard for
internationalized domain names lists them: no capital letters, nothing that is only another
spelling of something else, nothing without a meaning. Each has a role, which says in which
direction it is written and whether it stands on the character before it.
-/

namespace RepairConsole.Url.Host

/-- What a character of the repertoire does in a label. -/
inductive Role where
  /-- Written from left to right. -/
  | leftToRight
  /-- Written from right to left, as in Hebrew. -/
  | rightToLeft
  /-- Written from right to left and joined, as in Arabic. -/
  | arabic
  /-- A digit that numbers in every direction use. -/
  | digit
  /-- A digit of Arabic numbers. -/
  | arabicDigit
  /-- Signs that take the direction of what is around them. -/
  | neutral
  /-- Stands on the character before it. -/
  | mark
  /-- Stands beside the character before it and belongs to it. -/
  | spacingMark
  deriving DecidableEq, Repr

namespace Role

/-- The letters of the table. -/
def ofLetter? : Char → Option Role
  | 'l' => some leftToRight
  | 'r' => some rightToLeft
  | 'a' => some arabic
  | 'e' => some digit
  | 'n' => some arabicDigit
  | 'o' => some neutral
  | 'm' => some mark
  | 's' => some spacingMark
  | _ => none

/-- The role of every code point in turn; `x` is not in the repertoire. -/
def table : Text.Runs.Table :=
  [(0x0, "48o10e7o26x6o26l5o33x7oxox2oxox2o4x2o3xo3xo23xo7x24lo8lxlxlxlxlxlxlxlxlxlxlxlxlxlxlx"),
   (0x11D, "lxlxlxlxlxlxlxlxlxlxl3xlx2lxlxlxl3xlxlxlxl2xlxlxlxlxlxlxlxlxlxlxlxlxlxlxlxlxlxlxlxlx"),
   (0x173, "lxlxl2xlxlxlxl2xlxl2xl3x2l4xl2xl3x3l2xl2xlxlxl2xlx2lxl2xl3xlxl2x3lx7l10xlxlxlxlxlxlx"),
   (0x1DA, "lx2lxlxlxlxlxlxlxlxlx2l4xl3xlxlxlxlxlxlxlxlxlxlxlxlxlxlxlxlxlxlxlxlxlxlxlxlxlxlxlxlx"),
   (0x231, "lx7l2xl2x2lxl4xlxlxlxlx97l9x2o7l14o2l6o6x2o5x9ol17o64m2xm3x9mx32mxlxlxoxl3x3l18xl27x"),
   (0x3AC, "35l8xlxlxlxlxlxlxlxlxlxlxlxlxl3xl2xoxl2x2l51x48lxlxlxlxlxlxlxlxlxlxlxlxlxlxlxlxlx2l"),
   (0x483, "7mxlxlxlxlxlxlxlxlxlxlxlxlxlxlxlxlxlxlxlxlxlxlxlxlxlxlxl2xlxlxlxlxlxlx2lxlxlxlxlxlxl"),
   (0x4DC, "xlxlxlxlxlxlxlxlxlxlxlxlxlxlxlxlxlxlxlxlxlxlxlxlxlxlxlxlxlxlxlxlxlxlxlxlxlxlxlxlxlxl"),
   (0x530, "41x46lx2lo2x3ox45mrmr2mr2mrm8x27r4x6r17x2oa2oaoa2o11max46a21m10no2n3am4a4x93a7mxo6m"),
   (0x6E5, "2a2mo4m2a10e20a2xam30a27m2x89a11ma14x43r9m2r4or2xm24r4mr9mr3mr5m2x15rx25r3m2xrx11a5x"),
   (0x870, "32a7x9m42a24mx32ms54lmsml3s8m4sm2sl7m8x2l2m29lm2sx8l2x2l2x22lx7lxl3x4l2xml3s4m2x2s2x"),
   (0x9CB, "2sml8xs8x2l2m2x12l2o7lo2lm2x2msx6l4x2l2x22lx7lxl2xl2x2l2xmx3s2m4x2m2x3m3xm10xl9x10l"),
   (0xA70, "2m3lml10x2msx9lx3lx22lx7lx2lx5l2xml3s5mx2msx2sm2xl15x2l2m2x11lo7xl6mxm2sx8l2x2l2x22l"),
   (0xB29, "x7lx2lx5l2xmlsms4m2x2s2x2sm7x2ms7x3l2m2x18l10xmlx6l3x3lx4l3x2lxlx2l3x2l3x3l3x12l4x2s"),
   (0xBC0, "m2s3x3sx3sm2xl6xs14x13l8o5xm3sm8lx3lx23lx16l2xml3m4sx3mx4m7x2mx3lx2l2x2l2m2x10l7xl7o"),
   (0xC7F, "2lm2s9lx3lx23lx10lx5l2xml7sx3sx2s2m7x2s5x3lx2l2m2x10lx2ls12x2m2s9lx3lx41l2ml3s4mx3sx"),
   (0xD4A, "3sm2l4x3ls10l2m2x26lxm2sx18l3x24lx9lxl2x7l3xm4x3s3mxmx8s6x10l2x2sl12x48lmlx7m4xo7l8m"),
   (0xE4F, "13l37x2lxlx5lx24lxlx10lmlx9ml2x5lxlx7mx10l4x2l32x12lx11l2m27lmlmlm4o2s3lx4lx4lx4lx4l"),
   (0xF57, "x4lx12lx3l4x2mxm5x5msmx3ml2m5l6mx4mx4mx4mx4mx4mx12mx3mx8lm6lx13l37x43l2s4ms6ms2m2s2m"),
   (0x103F, "23l2s2m4l3ml3s2l7s3l4m13lm2s2m6smls10l3sm2l48x44lx98l2x232lx4l2x7lxlx4l2x41lx4l2x33l"),
   (0x12B1, "x4l2x7lxlx4l2x15lx57lx4l2x67l2x3m29l3x16l10o6x86l10xo639lx26l2o3x89l7x18l3ms9x19l2ms"),
   (0x1735, "2l9x18l2m12x13lx3lx2m12x52l2xs7m8sm2s11m7lolm2x10l6x10o6x11o5x10l6x89l7x5l2m34lml5x"),
   (0x18B0, "70l10x31lx3m4s2m3s4x2sm6s3m4xo3x2o40l2x5l11x44l4x26l6x11l3x34o23l2m2sm2x55lsms7mxmsm"),
   (0x1A63, "2s8m6s10m2xm10l6x10l6x14l2x46m2x12m20x4ms47lms5msm5sm2s8lxlo27l9m12l2ms30ls4m2s2ms3m"),
   (0x1BAE, "56lms2m3sms3m2s8x40l8s8m2s2m3x15l3x51l10xl53x8l8x3ml13ms7m4lm6lm2ls2ml5x44l3xl11xl"),
   (0x1D3C, "18xl28x13lx34l37x64mxlxlxlxlxlxlxlxlxlxlxlxlxlxlxlxlxlxlxlxlxlxlxlxlxlxlxlxlxlxlxlxl"),
   (0x1E40, "xlxlxlxlxlxlxlxlxlxlxlxlxlxlxlxlxlxlxlxlxlxlxlxlxlxlxlxlxlxlxlxlxlxlxlxlxlxlxlxlxlxl"),
   (0x1E94, "x5l2x2lxlxlxlxlxlxlxlxlxlxlxlxlxlxlxlxlxlxlxlxlxlxlxlxlxlxlxlxlxlxlxlxlxlxlxlxlxlxlx"),
   (0x1EEB, "lxlxlxlxlxlxlxlxlxlx9l8x6l10x8l8x8l8x6l10x8l8x8l8xlxlxlxlxlxlxl51x2l4xl15xl9x3l3x2l"),
   (0x1FD8, "8x3lx4l14xl21x2o2xox5ox12o3xo8x3o2xo2x4oxox8o3x13ox7o65x8ox25o14x33m19xo3xo11xo2x2o"),
   (0x2119, "5x2o3xoxoxoxo4xo11xo6x4o5x4o2l48x3lx5lx2o4x156o2xo2x248o2x11o69l26ol148o22x11o160x"),
   (0x24EB, "449ol339o256l268ox103o3x101ox151o2x138o48x48lxl3x2lxlxlxl4xlx2lx6l5xlxlxlxlxlxlxlxlx"),
   (0x2C91, "lxlxlxlxlxlxlxlxlxlxlxlxlxlxlxlxlxlxlxlxlxlxlxlxlxlxlxlxlxlxlxlxlxlxlxlxlxlxlxlxlx2l"),
   (0x2CE5, "6oxlxl3mxl5x7o38lxl5xl2x56l8xl14xm23l9x7lx7lx7lx7lx7lx7lx7lx7lx32m94o34x26ox4ox83o"),
   (0x2EF3, "270xox2o3l25o9l4m2so5lxo3x2l3ox86l2x2m2x2lxo90lo3l6x43l96x2l14x32l38o10x16l72x8l47xl"),
   (0x3280, "384x6592l64o22157l3x55o9x317l3o28l21xlxlxlxlxlxlxlxlxlxlxlxlxlxlxlxlxlxlxlxlxlxlx2l"),
   (0xA66F, "4mo10m2oxlxlxlxlxlxlxlxlxlxlxlxlxlxl2x2m80l2m6l8x34oxlxlxlxlxlxlx3lxlxlxlxlxlxlxlxlx"),
   (0xA743, "lxlxlxlxlxlxlxlxlxlxlxlxlxlxlxlxlxlxlxlxlxlxlx8lxlxl2xlxlxlxlxlo2lxlx2lxlx3lxlxlxlxl"),
   (0xA79E, "xlxlxlxlxlxl5xl5xlxlxlxlxlxlxlxl4xlxl2xlxlxlxlxlxlxlxl26x2l2x8lm3lm4lm23l2s2ms4om3x"),
   (0xA830, "8l2o6x52l4o8x2s50l16s2m8x12l6x18m13lm38l8m25l11m2s11x30l3x3ms47lm2s4m2s2m3s13lx11l4x"),
   (0xA9DE, "7lm25lx41l6m2s2m2s2m9x3lm8lms2x10l2x31lsms50lml3m2l2m5l2mlml24x16ls2m2s5lsm10x6l2x6l"),
   (0xAB0F, "2x6l9x7lx7lx44l4x9lx2o84x35l2sm2sm2slsm2x10l6x11172l12x23l4x49l8722x2lxlx2l10xlxlx2l"),
   (0xFA25, "2x3l244xm147x17a16o363x18o64x2o54x8o45x3o32x16m21x2o44xa396x12lx26lx19lx2lx15l2x14l"),
   (0x1005E, "34x123l5xlol4x45l3x9l77o2lx13o3xo47x45lm130x29l3x49l15xm27e4x36l9x30l5x38l5m5x30lx"),
   (0x1039F, "37l4x14l82x118l2x10l46x36l4x40l8x52l11xl39x11lx15lx7lx2l3x52l12x311l9x22l10x8l24xl"),
   (0x10781, "127x6r2xrx44rx2r3xr2x23rx72r8x9r48x19rx2r5x33r3xo26r5x27r38x56r4x20r2x47r3mx2m5x4m4r"),
   (0x10A14, "x3rx29r2x3m4xm9r7x9r7x64r32x37r2m4x12r9x54r3x7o22r2x27r5x26r7x4r12x7r80x73r119x51r7x"),
   (0x10CFA, "6r36a4m8x10n6x16r25x5mo23r8x2r208x31nx42rx2mr2x2r16x6a8x9o33x6m40r8x22a11m9a22x18r4m"),
   (0x10F86, "4r38x28r20x23r9xsms53l15m7l4x20o10lm2l2ml9x3ms45l3s4m2s2m2lx4lm13x25l7x10l6x3m36l5ms"),
   (0x1112D, "8mx15l2sl8x35lm3l9x2ms48l3s9m2s8l4mlsm16lx20l11x18lx25l3s3m2sms2m6lm2lm62x7lxlx4lx"),
   (0x1128F, "15lx11l6x47lm3s8m5x10l6x2m2sx8l2x2l2x22lx7lx2lx5lx2ml2sm4s2x2s2x3s2xl6xs5x5l2s2x7m3x"),
   (0x11370, "5m11x10lxl2xlx38lxl3s6mxs2xsx4sx2smsmlm3lx2l8x2m29x53l3s8m2s3msm21lxlm3l30x48l3s6msm"),
   (0x114BB, "4s2ms2m4l8x10l166x47l3s4m2x4s2ms2m27l2m34x48l3s8m2sms2m4l11x10l6x13o19x43lmsm2s6msm"),
   (0x116B8, "2l6x10l6x20l28x27l2x3m2s4ms5m4x23l185x44l3s9ms2ml132x51l12x8l2xl2x8lx2lx24l6sx2s2x2m"),
   (0x1193D, "smlslsm3l9x10l70x8l2x39l3s4m2x2m4sm3ls27xl6m2s2m40l6msl4m8lm8xl6m2s3m46l13ms2m9l13x"),
   (0x11AB0, "73l7x10l86xms3msms88x34l14x10l6x9lx37ls7mx6m2s6l10x29l3x32l2x22mxs7ms2ms2m73x7lx2lx"),
   (0x11D0B, "38l6m3xmx2mx7mlm8x10l6x6lx2lx32l5sx2mx2smsml7x10l6x44l4x10l246x19l2m2s2l7x2mls13lx"),
   (0x11F12, "34l2s5m3x2smsm23lm85xl15x21l29o13x923l102x111lx5l11x196l2636x99l13x1072l16xm6l15m10x"),
   (0x13460, "3995l5x583l6841x30l12m3s3m10l1734x569l7x31lx10l4x81lx10l6x30l2x5ml10x48l7m15l10x10lx"),
   (0x16B5B, "7lx21l5x19l432x58l230x59l32x25l44x75l4xml55s7x4m13l64x2lolm11x2s5l9x7382l41x32l97x"),
   (0x18D80, "115l8701x4lx7lx2lx291l15xl29x3l2xl14x4l8x396l2308x107l5x13l3x9l7x10l2xl2ml3936x214o"),
   (0x1CCD6, "36x3o3x436o6x23o15x17o15x46m2x23m9x116l60x246l10x39l2x53l7x2s3m3l6s8x8m2l7m30l4m13l"),
   (0x1D1BB, "6x40l2o21x66o3mo122x20l12x20l12x87o9x25l1159x512l55m4l50m8lm14lm7l15x5mx15m1104x31l"),
   (0x1DF1F, "6x6l213x7mx17m2x7mx2mx5m100xm112x45l3x7m7l2x10l4x2l320x30lm17x44l4m10l5xo464x28l4m"),
   (0x1E4F0, "10l214x30l2m11l4xl192x31lx3lm2lm7l2m5lm8x2l224x7lx4lx2lx15lx197r2x9r7m75x34r7mr4x10r"),
   (0x1E95A, "4x2r785x68a76x61a434x2o270x44o4x100o12x15o2x15ox15ox37o21x5o31xo32x26l3x3o32lx28lo"),
   (0x1F1AE, "56x26l96x6o154x985o3x17o3x13o3x218o6x12o4xo15x12o4x56o8x10o6x40o8x30o2x12o4x2o14x9o"),
   (0x1F8D9, "39x344o8x14o2x13o3x11o3x57oxo4x16o2x12o4x10o7x147ox92o10xo1029x42720l32x4382l2x5774l"),
   (0x2CEAE, "2x7473l15x622l4514x4939l5x8490l")]

/-- The role of a code point; `none` if it is not in the repertoire. -/
def of? (point : Nat) : Option Role := (Text.Runs.find? point table).bind ofLetter?

/-- Whether a character stands on or beside the one before it. -/
def isMark (r : Role) : Bool := r == mark || r == spacingMark

/-- Whether a character makes the name one that has to be read in both directions. -/
def turns (r : Role) : Bool := r == rightToLeft || r == arabic || r == arabicDigit

/-! ## Examples -/

example : of? 'é'.toNat = some leftToRight := by decide +kernel

example : of? 'É'.toNat = none := by decide +kernel

example : of? 0x5D0 = some rightToLeft := by decide +kernel

end Role
end RepairConsole.Url.Host
