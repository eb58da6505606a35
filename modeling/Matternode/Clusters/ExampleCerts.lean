/-
  File:      Matternode/Clusters/ExampleCerts.lean
  Subject:   ExampleCerts: the certificates and keys of a device without its own.

  * `TEST_PAI_CERTIFICATE`, `TEST_DAC_CERTIFICATE`, `TEST_CERTIFICATION_DECLARATION`;
  * `TEST_DAC_PRIVKEY`, `TEST_DAC_PUBKEY`.
-/
import Matternode.Tlv.Element

namespace Matternode.Clusters.ExampleCerts

open Base Tlv

/-- The bytes of words of 44 bytes each. -/
def words (ws : List Nat) : Bytes := ws.flatMap (toBE 44)

/-- PAI for VID=0xFFF1. -/
def TEST_PAI_CERTIFICATE : ByteString where
  bytes := words [
      0x308201cb30820171a003020102020856ad8222ad945b64300a06082a8648ce3d040302303031183016060355,
      0x04030c0f4d617474657220546573742050414131143012060a2b0601040182a27c02010c0446464631302017,
      0x0d3232303230353030303030305a180f39393939313233313233353935395a303d3125302306035504030c1c,
      0x4d6174746572204465762050414920307846464631206e6f2050494431143012060a2b0601040182a27c0201,
      0x0c04464646313059301306072a8648ce3d020106082a8648ce3d03010703420004419a9315c2173e0c8c876d,
      0x03ccfc944852647f7fec5e5082f4059928eca894c594151309ac631e4cb03392af684b0bafb7e65b3b8162c2,
      0xf52bf931b8e77aaa82a366306430120603551d130101ff040830060101ff020100300e0603551d0f0101ff04,
      0x0403020106301d0603551d0e0416041463540e47f64b1c38d13884a462d16c195d8ffb3c301f0603551d2304,
      0x18301680146afd22771f511fecbf1641976710dcdc31a1717e300a06082a8648ce3d04030203480030450221,
      0x00b2ef27f49ae9b50fb91eeac94c4d0bdbb8d7929c6cb88face529368d12054c0c0220655dc92b86bd909882] ++
    toBE 23 0xa6c62177b825d7d05edbe7c22f9fea71220e7ea703f891
  short := by simp [words, toBE]

/-- DAC for VID=0xFFF1, PID=0x8001. -/
def TEST_DAC_CERTIFICATE : ByteString where
  bytes := words [
      0x308201e73082018ea003020102020869cdf10de9e54ed1300a06082a8648ce3d040302303d31253023060355,
      0x04030c1c4d6174746572204465762050414920307846464631206e6f2050494431143012060a2b0601040182,
      0xa27c02010c04464646313020170d3232303230353030303030305a180f39393939313233313233353935395a,
      0x30533125302306035504030c1c4d61747465722044657620444143203078464646312f307838303031311430,
      0x12060a2b0601040182a27c02010c044646463131143012060a2b0601040182a27c02020c0438303031305930,
      0x1306072a8648ce3d020106082a8648ce3d03010703420004463ac69342910a0e5588fc6ff56bb63e62eccecb,
      0x148f7d4eb03ee552601415767d16a5c663f793e49123260b8297a7cd7e7cfc7b316b39d98e90d29377738e82,
      0xa360305e300c0603551d130101ff04023000300e0603551d0f0101ff040403020780301d0603551d0e041604,
      0x1488dde7b300382932cff734c04624810f44168a6f301f0603551d2304183016801463540e47f64b1c38d138,
      0x84a462d16c195d8ffb3c300a06082a8648ce3d040302034700304402200127a27b4b44610ee2fcdc4d2b7885,
      0x563660bc0f76f17219ed6a08dfb2b3c1cd02206b59e0af45f3eb2a85b919d35731528c6028c415239545e108] ++
    toBE 7 0xe4e54e70971353
  short := by simp [words, toBE]

/-- The key pair of that certificate. -/
def TEST_DAC_PRIVKEY : Bytes :=
  toBE 32 0xaab600ae8ae8aab7d73627c217b7c204709ca6946af5f2f7530833a52b44fbff

def TEST_DAC_PUBKEY : Bytes :=
  toBE 33 0x04463ac69342910a0e5588fc6ff56bb63e62eccecb148f7d4eb03ee55260141576 ++
    toBE 32 0x7d16a5c663f793e49123260b8297a7cd7e7cfc7b316b39d98e90d29377738e82

/-- kCdForAllExamples. -/
def TEST_CERTIFICATION_DECLARATION : ByteString where
  bytes := words [
      0x3082021906092a864886f70d010702a082020a30820206020103310d300b0609608648016503040201308201,
      0x7106092a864886f70d010701a08201620482015e152400012501f1ff36020500800501800502800503800504,
      0x80050580050680050780050880050980050a80050b80050c80050d80050e80050f8005108005118005128005,
      0x1380051480051580051680051780051880051980051a80051b80051c80051d80051e80051f80052080052180,
      0x052280052380052480052580052680052780052880052980052a80052b80052c80052d80052e80052f800530,
      0x80053180053280053380053480053580053680053780053880053980053a80053b80053c80053d80053e8005,
      0x3f80054080054180054280054380054480054580054680054780054880054980054a80054b80054c80054d80,
      0x054e80054f80055080055180055280055380055480055580055680055780055880055980055a80055b80055c,
      0x80055d80055e80055f80056080056180056280056380182403162c04135a494732303134325a423333303030,
      0x332d32342405002406002507942624080018317d307b020103801462fa823359acfaa9963e1cfa140addf504,
      0xf37160300b0609608648016503040201300a06082a8648ce3d04030204473045022024e5d1f47a7d7b0d206a,
      0x26ef699b7c9757b72d469089de3192e678c745e7f60c022100f8aa2fa711fcb79b97e397ceda667bae464e2b] ++
    toBE 13 0xd3ffdfc3cced7aa8ca5f4c1a7c
  short := by simp [words, toBE]

end Matternode.Clusters.ExampleCerts
