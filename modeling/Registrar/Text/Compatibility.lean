import Registrar.Text.CharClass
import Std.Data.HashMap

/-!
# Compatibility composition

Two spellings of one identifier are the same name when their compatibility compositions (Unicode's
normal form KC, version 14) agree: every character is decomposed fully, marks are put into
canonical order, and the result is composed again. The tables hold the characters that can stand
in an identifier; Hangul syllables follow from arithmetic.
-/

namespace Registrar.Compatibility

/-- Decompositions. A record `start, count, target` maps a run of characters to a run of characters,
one with several targets maps a single character. A line of a table holds records one behind the
other, every number in six hexadecimal digits; the first digit is one where a record starts. -/
def decompositionTable : List Nat :=
  [0x1000aa0000010000611000b50000010003bc1000ba00000100006f1000c0000001000041000300,
   0x1000c10000010000410003011000c20000010000410003021000c3000001000041000303,
   0x1000c40000010000410003081000c500000100004100030a1000c7000001000043000327,
   0x1000c80000010000450003001000c90000010000450003011000ca000001000045000302,
   0x1000cb0000010000450003081000cc0000010000490003001000cd000001000049000301,
   0x1000ce0000010000490003021000cf0000010000490003081000d100000100004e000303,
   0x1000d200000100004f0003001000d300000100004f0003011000d400000100004f000302,
   0x1000d500000100004f0003031000d600000100004f0003081000d9000001000055000300,
   0x1000da0000010000550003011000db0000010000550003021000dc000001000055000308,
   0x1000dd0000010000590003011000e00000010000610003001000e1000001000061000301,
   0x1000e20000010000610003021000e30000010000610003031000e4000001000061000308,
   0x1000e500000100006100030a1000e70000010000630003271000e8000001000065000300,
   0x1000e90000010000650003011000ea0000010000650003021000eb000001000065000308,
   0x1000ec0000010000690003001000ed0000010000690003011000ee000001000069000302,
   0x1000ef0000010000690003081000f100000100006e0003031000f200000100006f000300,
   0x1000f300000100006f0003011000f400000100006f0003021000f500000100006f000303,
   0x1000f600000100006f0003081000f90000010000750003001000fa000001000075000301,
   0x1000fb0000010000750003021000fc0000010000750003081000fd000001000079000301,
   0x1000ff000001000079000308100100000001000041000304100101000001000061000304,
   0x100102000001000041000306100103000001000061000306100104000001000041000328,
   0x100105000001000061000328100106000001000043000301100107000001000063000301,
   0x10010800000100004300030210010900000100006300030210010a000001000043000307,
   0x10010b00000100006300030710010c00000100004300030c10010d00000100006300030c,
   0x10010e00000100004400030c10010f00000100006400030c100112000001000045000304,
   0x100113000001000065000304100114000001000045000306100115000001000065000306,
   0x100116000001000045000307100117000001000065000307100118000001000045000328,
   0x10011900000100006500032810011a00000100004500030c10011b00000100006500030c,
   0x10011c00000100004700030210011d00000100006700030210011e000001000047000306,
   0x10011f000001000067000306100120000001000047000307100121000001000067000307,
   0x100122000001000047000327100123000001000067000327100124000001000048000302,
   0x100125000001000068000302100128000001000049000303100129000001000069000303,
   0x10012a00000100004900030410012b00000100006900030410012c000001000049000306,
   0x10012d00000100006900030610012e00000100004900032810012f000001000069000328,
   0x10013000000100004900030710013200000100004900004a10013300000100006900006a,
   0x10013400000100004a00030210013500000100006a00030210013600000100004b000327,
   0x10013700000100006b00032710013900000100004c00030110013a00000100006c000301,
   0x10013b00000100004c00032710013c00000100006c00032710013d00000100004c00030c,
   0x10013e00000100006c00030c10013f00000100004c0000b710014000000100006c0000b7,
   0x10014300000100004e00030110014400000100006e00030110014500000100004e000327,
   0x10014600000100006e00032710014700000100004e00030c10014800000100006e00030c,
   0x1001490000010002bc00006e10014c00000100004f00030410014d00000100006f000304,
   0x10014e00000100004f00030610014f00000100006f00030610015000000100004f00030b,
   0x10015100000100006f00030b100154000001000052000301100155000001000072000301,
   0x10015600000100005200032710015700000100007200032710015800000100005200030c,
   0x10015900000100007200030c10015a00000100005300030110015b000001000073000301,
   0x10015c00000100005300030210015d00000100007300030210015e000001000053000327,
   0x10015f00000100007300032710016000000100005300030c10016100000100007300030c,
   0x10016200000100005400032710016300000100007400032710016400000100005400030c,
   0x10016500000100007400030c100168000001000055000303100169000001000075000303,
   0x10016a00000100005500030410016b00000100007500030410016c000001000055000306,
   0x10016d00000100007500030610016e00000100005500030a10016f00000100007500030a,
   0x10017000000100005500030b10017100000100007500030b100172000001000055000328,
   0x100173000001000075000328100174000001000057000302100175000001000077000302,
   0x100176000001000059000302100177000001000079000302100178000001000059000308,
   0x10017900000100005a00030110017a00000100007a00030110017b00000100005a000307,
   0x10017c00000100007a00030710017d00000100005a00030c10017e00000100007a00030c10017f000001000073,
   0x1001a000000100004f00031b1001a100000100006f00031b1001af00000100005500031b,
   0x1001b000000100007500031b1001c400000100004400005a00030c1001c500000100004400007a00030c,
   0x1001c600000100006400007a00030c1001c700000100004c00004a1001c800000100004c00006a,
   0x1001c900000100006c00006a1001ca00000100004e00004a1001cb00000100004e00006a,
   0x1001cc00000100006e00006a1001cd00000100004100030c1001ce00000100006100030c,
   0x1001cf00000100004900030c1001d000000100006900030c1001d100000100004f00030c,
   0x1001d200000100006f00030c1001d300000100005500030c1001d400000100007500030c,
   0x1001d50000010000550003080003041001d60000010000750003080003041001d7000001000055000308000301,
   0x1001d80000010000750003080003011001d900000100005500030800030c1001da00000100007500030800030c,
   0x1001db0000010000550003080003001001dc0000010000750003080003001001de000001000041000308000304,
   0x1001df0000010000610003080003041001e00000010000410003070003041001e1000001000061000307000304,
   0x1001e20000010000c60003041001e30000010000e60003041001e600000100004700030c,
   0x1001e700000100006700030c1001e800000100004b00030c1001e900000100006b00030c,
   0x1001ea00000100004f0003281001eb00000100006f0003281001ec00000100004f000328000304,
   0x1001ed00000100006f0003280003041001ee0000010001b700030c1001ef00000100029200030c,
   0x1001f000000100006a00030c1001f100000100004400005a1001f200000100004400007a,
   0x1001f300000100006400007a1001f40000010000470003011001f5000001000067000301,
   0x1001f800000100004e0003001001f900000100006e0003001001fa00000100004100030a000301,
   0x1001fb00000100006100030a0003011001fc0000010000c60003011001fd0000010000e6000301,
   0x1001fe0000010000d80003011001ff0000010000f800030110020000000100004100030f,
   0x10020100000100006100030f100202000001000041000311100203000001000061000311,
   0x10020400000100004500030f10020500000100006500030f100206000001000045000311,
   0x10020700000100006500031110020800000100004900030f10020900000100006900030f,
   0x10020a00000100004900031110020b00000100006900031110020c00000100004f00030f,
   0x10020d00000100006f00030f10020e00000100004f00031110020f00000100006f000311,
   0x10021000000100005200030f10021100000100007200030f100212000001000052000311,
   0x10021300000100007200031110021400000100005500030f10021500000100007500030f,
   0x100216000001000055000311100217000001000075000311100218000001000053000326,
   0x10021900000100007300032610021a00000100005400032610021b000001000074000326,
   0x10021e00000100004800030c10021f00000100006800030c100226000001000041000307,
   0x100227000001000061000307100228000001000045000327100229000001000065000327,
   0x10022a00000100004f00030800030410022b00000100006f00030800030410022c00000100004f000303000304,
   0x10022d00000100006f00030300030410022e00000100004f00030710022f00000100006f000307,
   0x10023000000100004f00030700030410023100000100006f000307000304100232000001000059000304,
   0x1002330000010000790003041002b00000010000681002b10000010002661002b200000100006a,
   0x1002b30000010000721002b40000010002791002b500000100027b1002b60000010002811002b7000001000077,
   0x1002b80000010000791002e00000010002631002e100000100006c1002e20000010000731002e3000001000078,
   0x1002e4000001000295100340000002000300100343000001000313100344000001000308000301,
   0x1003740000010002b91003860000010003910003011003870000010000b7100388000001000395000301,
   0x10038900000100039700030110038a00000100039900030110038c00000100039f000301,
   0x10038e0000010003a500030110038f0000010003a90003011003900000010003b9000308000301,
   0x1003aa0000010003990003081003ab0000010003a50003081003ac0000010003b1000301,
   0x1003ad0000010003b50003011003ae0000010003b70003011003af0000010003b9000301,
   0x1003b00000010003c50003080003011003ca0000010003b90003081003cb0000010003c5000308,
   0x1003cc0000010003bf0003011003cd0000010003c50003011003ce0000010003c90003011003d00000010003b2,
   0x1003d10000010003b81003d20000010003a51003d30000010003a50003011003d40000010003a5000308,
   0x1003d50000010003c61003d60000010003c01003f00000010003ba1003f10000020003c11003f4000001000398,
   0x1003f50000010003b51003f90000010003a3100400000001000415000300100401000001000415000308,
   0x10040300000100041300030110040700000100040600030810040c00000100041a000301,
   0x10040d00000100041800030010040e000001000423000306100419000001000418000306,
   0x100439000001000438000306100450000001000435000300100451000001000435000308,
   0x10045300000100043300030110045700000100045600030810045c00000100043a000301,
   0x10045d00000100043800030010045e00000100044300030610047600000100047400030f,
   0x10047700000100047500030f1004c10000010004160003061004c2000001000436000306,
   0x1004d00000010004100003061004d10000010004300003061004d2000001000410000308,
   0x1004d30000010004300003081004d60000010004150003061004d7000001000435000306,
   0x1004da0000010004d80003081004db0000010004d90003081004dc000001000416000308,
   0x1004dd0000010004360003081004de0000010004170003081004df000001000437000308,
   0x1004e20000010004180003041004e30000010004380003041004e4000001000418000308,
   0x1004e50000010004380003081004e600000100041e0003081004e700000100043e000308,
   0x1004ea0000010004e80003081004eb0000010004e90003081004ec00000100042d000308,
   0x1004ed00000100044d0003081004ee0000010004230003041004ef000001000443000304,
   0x1004f00000010004230003081004f10000010004430003081004f200000100042300030b,
   0x1004f300000100044300030b1004f40000010004270003081004f5000001000447000308,
   0x1004f800000100042b0003081004f900000100044b000308100587000001000565000582,
   0x100622000001000627000653100623000001000627000654100624000001000648000654,
   0x10062500000100062700065510062600000100064a000654100675000001000627000674,
   0x1006760000010006480006741006770000010006c700067410067800000100064a000674,
   0x1006c00000010006d50006541006c20000010006c10006541006d30000010006d2000654,
   0x10092900000100092800093c10093100000100093000093c10093400000100093300093c,
   0x10095800000100091500093c10095900000100091600093c10095a00000100091700093c,
   0x10095b00000100091c00093c10095c00000100092100093c10095d00000100092200093c,
   0x10095e00000100092b00093c10095f00000100092f00093c1009cb0000010009c70009be,
   0x1009cc0000010009c70009d71009dc0000010009a10009bc1009dd0000010009a20009bc,
   0x1009df0000010009af0009bc100a33000001000a32000a3c100a36000001000a38000a3c,
   0x100a59000001000a16000a3c100a5a000001000a17000a3c100a5b000001000a1c000a3c,
   0x100a5e000001000a2b000a3c100b48000001000b47000b56100b4b000001000b47000b3e,
   0x100b4c000001000b47000b57100b5c000001000b21000b3c100b5d000001000b22000b3c,
   0x100b94000001000b92000bd7100bca000001000bc6000bbe100bcb000001000bc7000bbe,
   0x100bcc000001000bc6000bd7100c48000001000c46000c56100cc0000001000cbf000cd5,
   0x100cc7000001000cc6000cd5100cc8000001000cc6000cd6100cca000001000cc6000cc2,
   0x100ccb000001000cc6000cc2000cd5100d4a000001000d46000d3e100d4b000001000d47000d3e,
   0x100d4c000001000d46000d57100dda000001000dd9000dca100ddc000001000dd9000dcf,
   0x100ddd000001000dd9000dcf000dca100dde000001000dd9000ddf100e33000001000e4d000e32,
   0x100eb3000001000ecd000eb2100edc000001000eab000e99100edd000001000eab000ea1,
   0x100f43000001000f42000fb7100f4d000001000f4c000fb7100f52000001000f51000fb7,
   0x100f57000001000f56000fb7100f5c000001000f5b000fb7100f69000001000f40000fb5,
   0x100f73000001000f71000f72100f75000001000f71000f74100f76000001000fb2000f80,
   0x100f77000001000fb2000f71000f80100f78000001000fb3000f80100f79000001000fb3000f71000f80,
   0x100f81000001000f71000f80100f93000001000f92000fb7100f9d000001000f9c000fb7,
   0x100fa2000001000fa1000fb7100fa7000001000fa6000fb7100fac000001000fab000fb7,
   0x100fb9000001000f90000fb510102600000100102500102e1010fc0000010010dc101b06000001001b05001b35,
   0x101b08000001001b07001b35101b0a000001001b09001b35101b0c000001001b0b001b35,
   0x101b0e000001001b0d001b35101b12000001001b11001b35101b3b000001001b3a001b35,
   0x101b3d000001001b3c001b35101b40000001001b3e001b35101b41000001001b3f001b35,
   0x101b43000001001b42001b35101d2c000001000041101d2d0000010000c6101d2e000001000042,
   0x101d30000002000044101d3200000100018e101d33000008000047101d3c00000100004f101d3d000001000222,
   0x101d3e000001000050101d3f000001000052101d40000002000054101d42000001000057101d43000001000061,
   0x101d44000002000250101d46000001001d02101d47000001000062101d48000002000064101d4a000001000259,
   0x101d4b00000200025b101d4d000001000067101d4f00000100006b101d5000000100006d101d5100000100014b,
   0x101d5200000100006f101d53000001000254101d54000002001d16101d56000001000070101d57000002000074,
   0x101d59000001001d1d101d5a00000100026f101d5b000001000076101d5c000001001d25101d5d0000030003b2,
   0x101d600000020003c6101d62000001000069101d63000001000072101d64000002000075101d660000020003b2,
   0x101d680000010003c1101d690000020003c6101d7800000100043d101d9b000001000252101d9c000001000063,
   0x101d9d000001000255101d9e0000010000f0101d9f00000100025c101da0000001000066101da100000100025f,
   0x101da2000001000261101da3000001000265101da4000003000268101da7000001001d7b101da800000100029d,
   0x101da900000100026d101daa000001001d85101dab00000100029f101dac000001000271101dad000001000270,
   0x101dae000004000272101db2000001000278101db3000002000282101db50000010001ab101db6000002000289,
   0x101db8000001001d1c101db900000200028b101dbb00000100007a101dbc000003000290101dbf0000010003b8,
   0x101e00000001000041000325101e01000001000061000325101e02000001000042000307,
   0x101e03000001000062000307101e04000001000042000323101e05000001000062000323,
   0x101e06000001000042000331101e07000001000062000331101e08000001000043000327000301,
   0x101e09000001000063000327000301101e0a000001000044000307101e0b000001000064000307,
   0x101e0c000001000044000323101e0d000001000064000323101e0e000001000044000331,
   0x101e0f000001000064000331101e10000001000044000327101e11000001000064000327,
   0x101e1200000100004400032d101e1300000100006400032d101e14000001000045000304000300,
   0x101e15000001000065000304000300101e16000001000045000304000301101e17000001000065000304000301,
   0x101e1800000100004500032d101e1900000100006500032d101e1a000001000045000330,
   0x101e1b000001000065000330101e1c000001000045000327000306101e1d000001000065000327000306,
   0x101e1e000001000046000307101e1f000001000066000307101e20000001000047000304,
   0x101e21000001000067000304101e22000001000048000307101e23000001000068000307,
   0x101e24000001000048000323101e25000001000068000323101e26000001000048000308,
   0x101e27000001000068000308101e28000001000048000327101e29000001000068000327,
   0x101e2a00000100004800032e101e2b00000100006800032e101e2c000001000049000330,
   0x101e2d000001000069000330101e2e000001000049000308000301101e2f000001000069000308000301,
   0x101e3000000100004b000301101e3100000100006b000301101e3200000100004b000323,
   0x101e3300000100006b000323101e3400000100004b000331101e3500000100006b000331,
   0x101e3600000100004c000323101e3700000100006c000323101e3800000100004c000323000304,
   0x101e3900000100006c000323000304101e3a00000100004c000331101e3b00000100006c000331,
   0x101e3c00000100004c00032d101e3d00000100006c00032d101e3e00000100004d000301,
   0x101e3f00000100006d000301101e4000000100004d000307101e4100000100006d000307,
   0x101e4200000100004d000323101e4300000100006d000323101e4400000100004e000307,
   0x101e4500000100006e000307101e4600000100004e000323101e4700000100006e000323,
   0x101e4800000100004e000331101e4900000100006e000331101e4a00000100004e00032d,
   0x101e4b00000100006e00032d101e4c00000100004f000303000301101e4d00000100006f000303000301,
   0x101e4e00000100004f000303000308101e4f00000100006f000303000308101e5000000100004f000304000300,
   0x101e5100000100006f000304000300101e5200000100004f000304000301101e5300000100006f000304000301,
   0x101e54000001000050000301101e55000001000070000301101e56000001000050000307,
   0x101e57000001000070000307101e58000001000052000307101e59000001000072000307,
   0x101e5a000001000052000323101e5b000001000072000323101e5c000001000052000323000304,
   0x101e5d000001000072000323000304101e5e000001000052000331101e5f000001000072000331,
   0x101e60000001000053000307101e61000001000073000307101e62000001000053000323,
   0x101e63000001000073000323101e64000001000053000301000307101e65000001000073000301000307,
   0x101e6600000100005300030c000307101e6700000100007300030c000307101e68000001000053000323000307,
   0x101e69000001000073000323000307101e6a000001000054000307101e6b000001000074000307,
   0x101e6c000001000054000323101e6d000001000074000323101e6e000001000054000331,
   0x101e6f000001000074000331101e7000000100005400032d101e7100000100007400032d,
   0x101e72000001000055000324101e73000001000075000324101e74000001000055000330,
   0x101e75000001000075000330101e7600000100005500032d101e7700000100007500032d,
   0x101e78000001000055000303000301101e79000001000075000303000301101e7a000001000055000304000308,
   0x101e7b000001000075000304000308101e7c000001000056000303101e7d000001000076000303,
   0x101e7e000001000056000323101e7f000001000076000323101e80000001000057000300,
   0x101e81000001000077000300101e82000001000057000301101e83000001000077000301,
   0x101e84000001000057000308101e85000001000077000308101e86000001000057000307,
   0x101e87000001000077000307101e88000001000057000323101e89000001000077000323,
   0x101e8a000001000058000307101e8b000001000078000307101e8c000001000058000308,
   0x101e8d000001000078000308101e8e000001000059000307101e8f000001000079000307,
   0x101e9000000100005a000302101e9100000100007a000302101e9200000100005a000323,
   0x101e9300000100007a000323101e9400000100005a000331101e9500000100007a000331,
   0x101e96000001000068000331101e97000001000074000308101e9800000100007700030a,
   0x101e9900000100007900030a101e9a0000010000610002be101e9b000001000073000307,
   0x101ea0000001000041000323101ea1000001000061000323101ea2000001000041000309,
   0x101ea3000001000061000309101ea4000001000041000302000301101ea5000001000061000302000301,
   0x101ea6000001000041000302000300101ea7000001000061000302000300101ea8000001000041000302000309,
   0x101ea9000001000061000302000309101eaa000001000041000302000303101eab000001000061000302000303,
   0x101eac000001000041000323000302101ead000001000061000323000302101eae000001000041000306000301,
   0x101eaf000001000061000306000301101eb0000001000041000306000300101eb1000001000061000306000300,
   0x101eb2000001000041000306000309101eb3000001000061000306000309101eb4000001000041000306000303,
   0x101eb5000001000061000306000303101eb6000001000041000323000306101eb7000001000061000323000306,
   0x101eb8000001000045000323101eb9000001000065000323101eba000001000045000309,
   0x101ebb000001000065000309101ebc000001000045000303101ebd000001000065000303,
   0x101ebe000001000045000302000301101ebf000001000065000302000301101ec0000001000045000302000300,
   0x101ec1000001000065000302000300101ec2000001000045000302000309101ec3000001000065000302000309,
   0x101ec4000001000045000302000303101ec5000001000065000302000303101ec6000001000045000323000302,
   0x101ec7000001000065000323000302101ec8000001000049000309101ec9000001000069000309,
   0x101eca000001000049000323101ecb000001000069000323101ecc00000100004f000323,
   0x101ecd00000100006f000323101ece00000100004f000309101ecf00000100006f000309,
   0x101ed000000100004f000302000301101ed100000100006f000302000301101ed200000100004f000302000300,
   0x101ed300000100006f000302000300101ed400000100004f000302000309101ed500000100006f000302000309,
   0x101ed600000100004f000302000303101ed700000100006f000302000303101ed800000100004f000323000302,
   0x101ed900000100006f000323000302101eda00000100004f00031b000301101edb00000100006f00031b000301,
   0x101edc00000100004f00031b000300101edd00000100006f00031b000300101ede00000100004f00031b000309,
   0x101edf00000100006f00031b000309101ee000000100004f00031b000303101ee100000100006f00031b000303,
   0x101ee200000100004f00031b000323101ee300000100006f00031b000323101ee4000001000055000323,
   0x101ee5000001000075000323101ee6000001000055000309101ee7000001000075000309,
   0x101ee800000100005500031b000301101ee900000100007500031b000301101eea00000100005500031b000300,
   0x101eeb00000100007500031b000300101eec00000100005500031b000309101eed00000100007500031b000309,
   0x101eee00000100005500031b000303101eef00000100007500031b000303101ef000000100005500031b000323,
   0x101ef100000100007500031b000323101ef2000001000059000300101ef3000001000079000300,
   0x101ef4000001000059000323101ef5000001000079000323101ef6000001000059000309,
   0x101ef7000001000079000309101ef8000001000059000303101ef9000001000079000303,
   0x101f000000010003b1000313101f010000010003b1000314101f020000010003b1000313000300,
   0x101f030000010003b1000314000300101f040000010003b1000313000301101f050000010003b1000314000301,
   0x101f060000010003b1000313000342101f070000010003b1000314000342101f08000001000391000313,
   0x101f09000001000391000314101f0a000001000391000313000300101f0b000001000391000314000300,
   0x101f0c000001000391000313000301101f0d000001000391000314000301101f0e000001000391000313000342,
   0x101f0f000001000391000314000342101f100000010003b5000313101f110000010003b5000314,
   0x101f120000010003b5000313000300101f130000010003b5000314000300101f140000010003b5000313000301,
   0x101f150000010003b5000314000301101f18000001000395000313101f19000001000395000314,
   0x101f1a000001000395000313000300101f1b000001000395000314000300101f1c000001000395000313000301,
   0x101f1d000001000395000314000301101f200000010003b7000313101f210000010003b7000314,
   0x101f220000010003b7000313000300101f230000010003b7000314000300101f240000010003b7000313000301,
   0x101f250000010003b7000314000301101f260000010003b7000313000342101f270000010003b7000314000342,
   0x101f28000001000397000313101f29000001000397000314101f2a000001000397000313000300,
   0x101f2b000001000397000314000300101f2c000001000397000313000301101f2d000001000397000314000301,
   0x101f2e000001000397000313000342101f2f000001000397000314000342101f300000010003b9000313,
   0x101f310000010003b9000314101f320000010003b9000313000300101f330000010003b9000314000300,
   0x101f340000010003b9000313000301101f350000010003b9000314000301101f360000010003b9000313000342,
   0x101f370000010003b9000314000342101f38000001000399000313101f39000001000399000314,
   0x101f3a000001000399000313000300101f3b000001000399000314000300101f3c000001000399000313000301,
   0x101f3d000001000399000314000301101f3e000001000399000313000342101f3f000001000399000314000342,
   0x101f400000010003bf000313101f410000010003bf000314101f420000010003bf000313000300,
   0x101f430000010003bf000314000300101f440000010003bf000313000301101f450000010003bf000314000301,
   0x101f4800000100039f000313101f4900000100039f000314101f4a00000100039f000313000300,
   0x101f4b00000100039f000314000300101f4c00000100039f000313000301101f4d00000100039f000314000301,
   0x101f500000010003c5000313101f510000010003c5000314101f520000010003c5000313000300,
   0x101f530000010003c5000314000300101f540000010003c5000313000301101f550000010003c5000314000301,
   0x101f560000010003c5000313000342101f570000010003c5000314000342101f590000010003a5000314,
   0x101f5b0000010003a5000314000300101f5d0000010003a5000314000301101f5f0000010003a5000314000342,
   0x101f600000010003c9000313101f610000010003c9000314101f620000010003c9000313000300,
   0x101f630000010003c9000314000300101f640000010003c9000313000301101f650000010003c9000314000301,
   0x101f660000010003c9000313000342101f670000010003c9000314000342101f680000010003a9000313,
   0x101f690000010003a9000314101f6a0000010003a9000313000300101f6b0000010003a9000314000300,
   0x101f6c0000010003a9000313000301101f6d0000010003a9000314000301101f6e0000010003a9000313000342,
   0x101f6f0000010003a9000314000342101f700000010003b1000300101f710000010003b1000301,
   0x101f720000010003b5000300101f730000010003b5000301101f740000010003b7000300,
   0x101f750000010003b7000301101f760000010003b9000300101f770000010003b9000301,
   0x101f780000010003bf000300101f790000010003bf000301101f7a0000010003c5000300,
   0x101f7b0000010003c5000301101f7c0000010003c9000300101f7d0000010003c9000301,
   0x101f800000010003b1000313000345101f810000010003b1000314000345,
   0x101f820000010003b1000313000300000345101f830000010003b1000314000300000345,
   0x101f840000010003b1000313000301000345101f850000010003b1000314000301000345,
   0x101f860000010003b1000313000342000345101f870000010003b1000314000342000345,
   0x101f88000001000391000313000345101f89000001000391000314000345,
   0x101f8a000001000391000313000300000345101f8b000001000391000314000300000345,
   0x101f8c000001000391000313000301000345101f8d000001000391000314000301000345,
   0x101f8e000001000391000313000342000345101f8f000001000391000314000342000345,
   0x101f900000010003b7000313000345101f910000010003b7000314000345,
   0x101f920000010003b7000313000300000345101f930000010003b7000314000300000345,
   0x101f940000010003b7000313000301000345101f950000010003b7000314000301000345,
   0x101f960000010003b7000313000342000345101f970000010003b7000314000342000345,
   0x101f98000001000397000313000345101f99000001000397000314000345,
   0x101f9a000001000397000313000300000345101f9b000001000397000314000300000345,
   0x101f9c000001000397000313000301000345101f9d000001000397000314000301000345,
   0x101f9e000001000397000313000342000345101f9f000001000397000314000342000345,
   0x101fa00000010003c9000313000345101fa10000010003c9000314000345,
   0x101fa20000010003c9000313000300000345101fa30000010003c9000314000300000345,
   0x101fa40000010003c9000313000301000345101fa50000010003c9000314000301000345,
   0x101fa60000010003c9000313000342000345101fa70000010003c9000314000342000345,
   0x101fa80000010003a9000313000345101fa90000010003a9000314000345,
   0x101faa0000010003a9000313000300000345101fab0000010003a9000314000300000345,
   0x101fac0000010003a9000313000301000345101fad0000010003a9000314000301000345,
   0x101fae0000010003a9000313000342000345101faf0000010003a9000314000342000345,
   0x101fb00000010003b1000306101fb10000010003b1000304101fb20000010003b1000300000345,
   0x101fb30000010003b1000345101fb40000010003b1000301000345101fb60000010003b1000342,
   0x101fb70000010003b1000342000345101fb8000001000391000306101fb9000001000391000304,
   0x101fba000001000391000300101fbb000001000391000301101fbc000001000391000345101fbe0000010003b9,
   0x101fc20000010003b7000300000345101fc30000010003b7000345101fc40000010003b7000301000345,
   0x101fc60000010003b7000342101fc70000010003b7000342000345101fc8000001000395000300,
   0x101fc9000001000395000301101fca000001000397000300101fcb000001000397000301,
   0x101fcc000001000397000345101fd00000010003b9000306101fd10000010003b9000304,
   0x101fd20000010003b9000308000300101fd30000010003b9000308000301101fd60000010003b9000342,
   0x101fd70000010003b9000308000342101fd8000001000399000306101fd9000001000399000304,
   0x101fda000001000399000300101fdb000001000399000301101fe00000010003c5000306,
   0x101fe10000010003c5000304101fe20000010003c5000308000300101fe30000010003c5000308000301,
   0x101fe40000010003c1000313101fe50000010003c1000314101fe60000010003c5000342,
   0x101fe70000010003c5000308000342101fe80000010003a5000306101fe90000010003a5000304,
   0x101fea0000010003a5000300101feb0000010003a5000301101fec0000010003a1000314,
   0x101ff20000010003c9000300000345101ff30000010003c9000345101ff40000010003c9000301000345,
   0x101ff60000010003c9000342101ff70000010003c9000342000345101ff800000100039f000300,
   0x101ff900000100039f000301101ffa0000010003a9000300101ffb0000010003a9000301,
   0x101ffc0000010003a900034510207100000100006910207f00000100006e102090000001000061,
   0x10209100000100006510209200000100006f102093000001000078102094000001000259102095000001000068,
   0x10209600000400006b10209a00000100007010209b000002000073102102000001000043102107000001000190,
   0x10210a00000100006710210b00000100004810210c00000100004810210d00000100004810210e000001000068,
   0x10210f00000100012710211000000100004910211100000100004910211200000100004c10211300000100006c,
   0x10211500000100004e10211900000300005010211c00000100005210211d00000100005210212400000100005a,
   0x1021260000010003a910212800000100005a10212a00000100004b10212b00000100004100030a,
   0x10212c00000200004210212f00000100006510213000000200004510213300000100004d10213400000100006f,
   0x1021350000040005d010213900000100006910213c0000010003c010213d0000010003b310213e000001000393,
   0x10213f0000010003a0102145000001000044102146000002000064102148000002000069102160000001000049,
   0x102161000001000049000049102162000001000049000049000049102163000001000049000056,
   0x102164000001000056102165000001000056000049102166000001000056000049000049,
   0x102167000001000056000049000049000049102168000001000049000058102169000001000058,
   0x10216a00000100005800004910216b00000100005800004900004910216c00000100004c10216d000002000043,
   0x10216f00000100004d102170000001000069102171000001000069000069102172000001000069000069000069,
   0x102173000001000069000076102174000001000076102175000001000076000069,
   0x102176000001000076000069000069102177000001000076000069000069000069102178000001000069000078,
   0x10217900000100007810217a00000100007800006910217b00000100007800006900006910217c00000100006c,
   0x10217d00000200006310217f00000100006d102c7c00000100006a102c7d000001000056102d6f000001002d61,
   0x10303800000100534110303900000200534410304c00000100304b00309910304e00000100304d003099,
   0x10305000000100304f003099103052000001003051003099103054000001003053003099,
   0x10305600000100305500309910305800000100305700309910305a000001003059003099,
   0x10305c00000100305b00309910305e00000100305d00309910306000000100305f003099,
   0x103062000001003061003099103065000001003064003099103067000001003066003099,
   0x10306900000100306800309910307000000100306f00309910307100000100306f00309a,
   0x10307300000100307200309910307400000100307200309a103076000001003075003099,
   0x10307700000100307500309a10307900000100307800309910307a00000100307800309a,
   0x10307c00000100307b00309910307d00000100307b00309a103094000001003046003099,
   0x10309e00000100309d00309910309f00000100308800308a1030ac0000010030ab003099,
   0x1030ae0000010030ad0030991030b00000010030af0030991030b20000010030b1003099,
   0x1030b40000010030b30030991030b60000010030b50030991030b80000010030b7003099,
   0x1030ba0000010030b90030991030bc0000010030bb0030991030be0000010030bd003099,
   0x1030c00000010030bf0030991030c20000010030c10030991030c50000010030c4003099,
   0x1030c70000010030c60030991030c90000010030c80030991030d00000010030cf003099,
   0x1030d10000010030cf00309a1030d30000010030d20030991030d40000010030d200309a,
   0x1030d60000010030d50030991030d70000010030d500309a1030d90000010030d8003099,
   0x1030da0000010030d800309a1030dc0000010030db0030991030dd0000010030db00309a,
   0x1030f40000010030a60030991030f70000010030ef0030991030f80000010030f0003099,
   0x1030f90000010030f10030991030fa0000010030f20030991030fe0000010030fd003099,
   0x1030ff0000010030b30030c81031310000020011001031330000010011aa103134000001001102,
   0x1031350000020011ac10313700000300110310313a0000060011b010314000000100111a103141000003001106,
   0x10314400000100112110314500000a00110910314f000015001161103164000001001160103165000002001114,
   0x1031670000020011c71031690000010011cc10316a0000010011ce10316b0000010011d310316c0000010011d7,
   0x10316d0000010011d910316e00000100111c10316f0000010011dd1031700000010011df10317100000200111d,
   0x10317300000100112010317400000200112210317600000100112710317700000100112910317800000500112b,
   0x10317d00000100113210317e00000100113610317f00000100114010318000000100114710318100000100114c,
   0x1031820000020011f110318400000300115710318700000200118410318900000100118810318a000002001191,
   0x10318c00000100119410318d00000100119e10318e0000010011a110a69c00000100044a10a69d00000100044c,
   0x10a77000000100a76f10a7f200000100004310a7f300000100004610a7f400000100005110a7f8000001000126,
   0x10a7f900000100015310ab5c00000100a72710ab5d00000100ab3710ab5e00000100026b10ab5f00000100ab52,
   0x10ab6900000100028d10f900000001008c4810f9010000010066f410f902000001008eca10f903000001008cc8,
   0x10f904000001006ed110f905000001004e3210f9060000010053e510f907000001009f9c10f908000001009f9c,
   0x10f90900000100595110f90a0000010091d110f90b00000100558710f90c00000100594810f90d0000010061f6,
   0x10f90e00000100766910f90f000001007f8510f91000000100863f10f9110000010087ba10f9120000010088f8,
   0x10f91300000100908f10f914000001006a0210f915000001006d1b10f9160000010070d910f9170000010073de,
   0x10f91800000100843d10f91900000100916a10f91a0000010099f110f91b000001004e8210f91c000001005375,
   0x10f91d000001006b0410f91e00000100721b10f91f00000100862d10f920000001009e1e10f921000001005d50,
   0x10f922000001006feb10f9230000010085cd10f92400000100896410f9250000010062c910f9260000010081d8,
   0x10f92700000100881f10f928000001005eca10f92900000100671710f92a000001006d6a10f92b0000010072fc,
   0x10f92c0000010090ce10f92d000001004f8610f92e0000010051b710f92f0000010052de10f9300000010064c4,
   0x10f931000001006ad310f93200000100721010f9330000010076e710f93400000100800110f935000001008606,
   0x10f93600000100865c10f937000001008def10f93800000100973210f939000001009b6f10f93a000001009dfa,
   0x10f93b00000100788c10f93c00000100797f10f93d000001007da010f93e0000010083c910f93f000001009304,
   0x10f940000001009e7f10f941000001008ad610f9420000010058df10f943000001005f0410f944000001007c60,
   0x10f94500000100807e10f94600000100726210f9470000010078ca10f948000001008cc210f9490000010096f7,
   0x10f94a0000010058d810f94b000001005c6210f94c000001006a1310f94d000001006dda10f94e000001006f0f,
   0x10f94f000001007d2f10f950000001007e3710f95100000100964b10f9520000010052d210f95300000100808b,
   0x10f9540000010051dc10f9550000010051cc10f956000001007a1c10f957000001007dbe10f9580000010083f1,
   0x10f95900000100967510f95a000001008b8010f95b0000010062cf10f95c000001006a0210f95d000001008afe,
   0x10f95e000001004e3910f95f000001005be710f96000000100601210f96100000100738710f962000001007570,
   0x10f96300000100531710f9640000010078fb10f965000001004fbf10f966000001005fa910f967000001004e0d,
   0x10f968000001006ccc10f96900000100657810f96a000001007d2210f96b0000010053c310f96c00000100585e,
   0x10f96d00000100770110f96e00000100844910f96f000001008aaa10f970000001006bba10f971000001008fb0,
   0x10f972000001006c8810f9730000010062fe10f9740000010082e510f9750000010063a010f976000001007565,
   0x10f977000001004eae10f97800000100516910f9790000010051c910f97a00000100688110f97b000001007ce7,
   0x10f97c00000100826f10f97d000001008ad210f97e0000010091cf10f97f0000010052f510f980000001005442,
   0x10f98100000100597310f982000001005eec10f9830000010065c510f984000001006ffe10f98500000100792a,
   0x10f9860000010095ad10f987000001009a6a10f988000001009e9710f989000001009ece10f98a00000100529b,
   0x10f98b0000010066c610f98c000001006b7710f98d000001008f6210f98e000001005e7410f98f000001006190,
   0x10f99000000100620010f99100000100649a10f992000001006f2310f99300000100714910f994000001007489,
   0x10f9950000010079ca10f996000001007df410f99700000100806f10f998000001008f2610f9990000010084ee,
   0x10f99a00000100902310f99b00000100934a10f99c00000100521710f99d0000010052a310f99e0000010054bd,
   0x10f99f0000010070c810f9a00000010088c210f9a1000001008aaa10f9a2000001005ec910f9a3000001005ff5,
   0x10f9a400000100637b10f9a5000001006bae10f9a6000001007c3e10f9a700000100737510f9a8000001004ee4,
   0x10f9a90000010056f910f9aa000001005be710f9ab000001005dba10f9ac00000100601c10f9ad0000010073b2,
   0x10f9ae00000100746910f9af000001007f9a10f9b000000100804610f9b100000100923410f9b20000010096f6,
   0x10f9b300000100974810f9b400000100981810f9b5000001004f8b10f9b60000010079ae10f9b70000010091b4,
   0x10f9b80000010096b810f9b90000010060e110f9ba000001004e8610f9bb0000010050da10f9bc000001005bee,
   0x10f9bd000001005c3f10f9be00000100659910f9bf000001006a0210f9c00000010071ce10f9c1000001007642,
   0x10f9c20000010084fc10f9c300000100907c10f9c4000001009f8d10f9c500000100668810f9c600000100962e,
   0x10f9c700000100528910f9c800000100677b10f9c90000010067f310f9ca000001006d4110f9cb000001006e9c,
   0x10f9cc00000100740910f9cd00000100755910f9ce00000100786b10f9cf000001007d1010f9d000000100985e,
   0x10f9d100000100516d10f9d200000100622e10f9d300000100967810f9d400000100502b10f9d5000001005d19,
   0x10f9d6000001006dea10f9d7000001008f2a10f9d8000001005f8b10f9d900000100614410f9da000001006817,
   0x10f9db00000100738710f9dc00000100968610f9dd00000100522910f9de00000100540f10f9df000001005c65,
   0x10f9e000000100661310f9e100000100674e10f9e20000010068a810f9e3000001006ce510f9e4000001007406,
   0x10f9e50000010075e210f9e6000001007f7910f9e70000010088cf10f9e80000010088e110f9e90000010091cc,
   0x10f9ea0000010096e210f9eb00000100533f10f9ec000001006eba10f9ed00000100541d10f9ee0000010071d0,
   0x10f9ef00000100749810f9f00000010085fa10f9f10000010096a310f9f2000001009c5710f9f3000001009e9f,
   0x10f9f400000100679710f9f5000001006dcb10f9f60000010081e810f9f7000001007acb10f9f8000001007b20,
   0x10f9f9000001007c9210f9fa0000010072c010f9fb00000100709910f9fc000001008b5810f9fd000001004ec0,
   0x10f9fe00000100833610f9ff00000100523a10fa0000000100520710fa01000001005ea610fa020000010062d3,
   0x10fa03000001007cd610fa04000001005b8510fa05000001006d1e10fa060000010066b410fa07000001008f3b,
   0x10fa0800000100884c10fa0900000100964d10fa0a00000100898b10fa0b000001005ed310fa0c000001005140,
   0x10fa0d0000010055c010fa1000000100585a10fa1200000100667410fa150000010051de10fa1600000100732a,
   0x10fa170000010076ca10fa1800000100793c10fa1900000100795e10fa1a00000100796510fa1b00000100798f,
   0x10fa1c00000100975610fa1d000001007cbe10fa1e000001007fbd10fa2000000100861210fa22000001008af8,
   0x10fa2500000100903810fa260000010090fd10fa2a0000010098ef10fa2b0000010098fc10fa2c000001009928,
   0x10fa2d000001009db410fa2e0000010090de10fa2f0000010096b710fa30000001004fae10fa310000010050e7,
   0x10fa3200000100514d10fa330000010052c910fa340000010052e410fa3500000100535110fa3600000100559d,
   0x10fa3700000100560610fa3800000100566810fa3900000100584010fa3a0000010058a810fa3b000001005c64,
   0x10fa3c000001005c6e10fa3d00000100609410fa3e00000100616810fa3f00000100618e10fa400000010061f2,
   0x10fa4100000100654f10fa420000010065e210fa4300000100669110fa4400000100688510fa45000001006d77,
   0x10fa46000001006e1a10fa47000001006f2210fa4800000100716e10fa4900000100722b10fa4a000001007422,
   0x10fa4b00000100789110fa4c00000100793e10fa4d00000100794910fa4e00000100794810fa4f000001007950,
   0x10fa5000000100795610fa5100000100795d10fa5200000200798d10fa54000001007a4010fa55000001007a81,
   0x10fa56000001007bc010fa57000001007df410fa58000001007e0910fa59000001007e4110fa5a000001007f72,
   0x10fa5b00000100800510fa5c0000010081ed10fa5d00000100827910fa5e00000100827910fa5f000001008457,
   0x10fa6000000100891010fa6100000100899610fa62000001008b0110fa63000001008b3910fa64000001008cd3,
   0x10fa65000001008d0810fa66000001008fb610fa6700000100903810fa680000010096e310fa690000010097ff,
   0x10fa6a00000100983b10fa6b00000100607510fa6c0000010242ee10fa6d00000100821810fa70000001004e26,
   0x10fa710000010051b510fa7200000100516810fa73000001004f8010fa7400000100514510fa75000001005180,
   0x10fa760000010052c710fa770000010052fa10fa7800000100559d10fa7900000100555510fa7a000001005599,
   0x10fa7b0000010055e210fa7c00000100585a10fa7d0000010058b310fa7e00000100594410fa7f000001005954,
   0x10fa80000001005a6210fa81000001005b2810fa82000001005ed210fa83000001005ed910fa84000001005f69,
   0x10fa85000001005fad10fa860000010060d810fa8700000100614e10fa8800000100610810fa8900000100618e,
   0x10fa8a00000100616010fa8b0000010061f210fa8c00000100623410fa8d0000010063c410fa8e00000100641c,
   0x10fa8f00000100645210fa9000000100655610fa9100000100667410fa9200000100671710fa9300000100671b,
   0x10fa9400000100675610fa95000001006b7910fa96000001006bba10fa97000001006d4110fa98000001006edb,
   0x10fa99000001006ecb10fa9a000001006f2210fa9b00000100701e10fa9c00000100716e10fa9d0000010077a7,
   0x10fa9e00000100723510fa9f0000010072af10faa000000100732a10faa100000100747110faa2000001007506,
   0x10faa300000100753b10faa400000100761d10faa500000100761f10faa60000010076ca10faa70000010076db,
   0x10faa80000010076f410faa900000100774a10faaa00000100774010faab0000010078cc10faac000001007ab1,
   0x10faad000001007bc010faae000001007c7b10faaf000001007d5b10fab0000001007df410fab1000001007f3e,
   0x10fab200000100800510fab300000100835210fab40000010083ef10fab500000100877910fab6000001008941,
   0x10fab700000100898610fab800000100899610fab9000001008abf10faba000001008af810fabb000001008acb,
   0x10fabc000001008b0110fabd000001008afe10fabe000001008aed10fabf000001008b3910fac0000001008b8a,
   0x10fac1000001008d0810fac2000001008f3810fac300000100907210fac400000100919910fac5000001009276,
   0x10fac600000100967c10fac70000010096e310fac800000100975610fac90000010097db10faca0000010097ff,
   0x10facb00000100980b10facc00000100983b10facd000001009b1210face000001009f9c10facf00000102284a,
   0x10fad000000102284410fad10000010233d510fad2000001003b9d10fad300000100401810fad4000001004039,
   0x10fad500000102524910fad6000001025cd010fad7000001027ed310fad8000001009f4310fad9000001009f8e,
   0x10fb0000000100006600006610fb0100000100006600006910fb0200000100006600006c,
   0x10fb0300000100006600006600006910fb0400000100006600006600006c10fb05000001000073000074,
   0x10fb0600000100007300007410fb1300000100057400057610fb14000001000574000565,
   0x10fb1500000100057400056b10fb1600000100057e00057610fb1700000100057400056d,
   0x10fb1d0000010005d90005b410fb1f0000010005f20005b710fb200000010005e210fb210000010005d0,
   0x10fb220000020005d310fb240000030005db10fb270000010005e810fb280000010005ea,
   0x10fb2a0000010005e90005c110fb2b0000010005e90005c210fb2c0000010005e90005bc0005c1,
   0x10fb2d0000010005e90005bc0005c210fb2e0000010005d00005b710fb2f0000010005d00005b8,
   0x10fb300000010005d00005bc10fb310000010005d10005bc10fb320000010005d20005bc,
   0x10fb330000010005d30005bc10fb340000010005d40005bc10fb350000010005d50005bc,
   0x10fb360000010005d60005bc10fb380000010005d80005bc10fb390000010005d90005bc,
   0x10fb3a0000010005da0005bc10fb3b0000010005db0005bc10fb3c0000010005dc0005bc,
   0x10fb3e0000010005de0005bc10fb400000010005e00005bc10fb410000010005e10005bc,
   0x10fb430000010005e30005bc10fb440000010005e40005bc10fb460000010005e60005bc,
   0x10fb470000010005e70005bc10fb480000010005e80005bc10fb490000010005e90005bc,
   0x10fb4a0000010005ea0005bc10fb4b0000010005d50005b910fb4c0000010005d10005bf,
   0x10fb4d0000010005db0005bf10fb4e0000010005e40005bf10fb4f0000010005d00005dc10fb50000001000671,
   0x10fb5100000100067110fb5200000100067b10fb5300000100067b10fb5400000100067b10fb5500000100067b,
   0x10fb5600000100067e10fb5700000100067e10fb5800000100067e10fb5900000100067e10fb5a000001000680,
   0x10fb5b00000100068010fb5c00000100068010fb5d00000100068010fb5e00000100067a10fb5f00000100067a,
   0x10fb6000000100067a10fb6100000100067a10fb6200000100067f10fb6300000100067f10fb6400000100067f,
   0x10fb6500000100067f10fb6600000100067910fb6700000100067910fb6800000100067910fb69000001000679,
   0x10fb6a0000010006a410fb6b0000010006a410fb6c0000010006a410fb6d0000010006a410fb6e0000010006a6,
   0x10fb6f0000010006a610fb700000010006a610fb710000010006a610fb7200000100068410fb73000001000684,
   0x10fb7400000100068410fb7500000100068410fb7600000100068310fb7700000100068310fb78000001000683,
   0x10fb7900000100068310fb7a00000100068610fb7b00000100068610fb7c00000100068610fb7d000002000686,
   0x10fb7f00000100068710fb8000000100068710fb8100000100068710fb8200000100068d10fb8300000100068d,
   0x10fb8400000100068c10fb8500000100068c10fb8600000100068e10fb8700000100068e10fb88000001000688,
   0x10fb8900000100068810fb8a00000100069810fb8b00000100069810fb8c00000100069110fb8d000001000691,
   0x10fb8e0000010006a910fb8f0000010006a910fb900000010006a910fb910000010006a910fb920000010006af,
   0x10fb930000010006af10fb940000010006af10fb950000010006af10fb960000010006b310fb970000010006b3,
   0x10fb980000010006b310fb990000010006b310fb9a0000010006b110fb9b0000010006b110fb9c0000010006b1,
   0x10fb9d0000010006b110fb9e0000010006ba10fb9f0000020006ba10fba10000010006bb10fba20000010006bb,
   0x10fba30000010006bb10fba40000010006d500065410fba50000010006d500065410fba60000010006c1,
   0x10fba70000010006c110fba80000010006c110fba90000010006c110fbaa0000010006be10fbab0000010006be,
   0x10fbac0000010006be10fbad0000010006be10fbae0000010006d210fbaf0000010006d2,
   0x10fbb00000010006d200065410fbb10000010006d200065410fbd30000010006ad10fbd40000010006ad,
   0x10fbd50000010006ad10fbd60000010006ad10fbd70000010006c710fbd80000010006c710fbd90000010006c6,
   0x10fbda0000010006c610fbdb0000010006c810fbdc0000010006c810fbdd0000010006c7000674,
   0x10fbde0000010006cb10fbdf0000010006cb10fbe00000010006c510fbe10000010006c510fbe20000010006c9,
   0x10fbe30000010006c910fbe40000010006d010fbe50000010006d010fbe60000010006d010fbe70000010006d0,
   0x10fbe800000100064910fbe900000100064910fbea00000100064a000654000627,
   0x10fbeb00000100064a00065400062710fbec00000100064a0006540006d510fbed00000100064a0006540006d5,
   0x10fbee00000100064a00065400064810fbef00000100064a00065400064810fbf000000100064a0006540006c7,
   0x10fbf100000100064a0006540006c710fbf200000100064a0006540006c610fbf300000100064a0006540006c6,
   0x10fbf400000100064a0006540006c810fbf500000100064a0006540006c810fbf600000100064a0006540006d0,
   0x10fbf700000100064a0006540006d010fbf800000100064a0006540006d010fbf900000100064a000654000649,
   0x10fbfa00000100064a00065400064910fbfb00000100064a00065400064910fbfc0000010006cc,
   0x10fbfd0000010006cc10fbfe0000010006cc10fbff0000010006cc10fc0000000100064a00065400062c,
   0x10fc0100000100064a00065400062d10fc0200000100064a00065400064510fc0300000100064a000654000649,
   0x10fc0400000100064a00065400064a10fc0500000100062800062c10fc0600000100062800062d,
   0x10fc0700000100062800062e10fc0800000100062800064510fc09000001000628000649,
   0x10fc0a00000100062800064a10fc0b00000100062a00062c10fc0c00000100062a00062d,
   0x10fc0d00000100062a00062e10fc0e00000100062a00064510fc0f00000100062a000649,
   0x10fc1000000100062a00064a10fc1100000100062b00062c10fc1200000100062b000645,
   0x10fc1300000100062b00064910fc1400000100062b00064a10fc1500000100062c00062d,
   0x10fc1600000100062c00064510fc1700000100062d00062c10fc1800000100062d000645,
   0x10fc1900000100062e00062c10fc1a00000100062e00062d10fc1b00000100062e000645,
   0x10fc1c00000100063300062c10fc1d00000100063300062d10fc1e00000100063300062e,
   0x10fc1f00000100063300064510fc2000000100063500062d10fc21000001000635000645,
   0x10fc2200000100063600062c10fc2300000100063600062d10fc2400000100063600062e,
   0x10fc2500000100063600064510fc2600000100063700062d10fc27000001000637000645,
   0x10fc2800000100063800064510fc2900000100063900062c10fc2a000001000639000645,
   0x10fc2b00000100063a00062c10fc2c00000100063a00064510fc2d00000100064100062c,
   0x10fc2e00000100064100062d10fc2f00000100064100062e10fc30000001000641000645,
   0x10fc3100000100064100064910fc3200000100064100064a10fc3300000100064200062d,
   0x10fc3400000100064200064510fc3500000100064200064910fc3600000100064200064a,
   0x10fc3700000100064300062710fc3800000100064300062c10fc3900000100064300062d,
   0x10fc3a00000100064300062e10fc3b00000100064300064410fc3c000001000643000645,
   0x10fc3d00000100064300064910fc3e00000100064300064a10fc3f00000100064400062c,
   0x10fc4000000100064400062d10fc4100000100064400062e10fc42000001000644000645,
   0x10fc4300000100064400064910fc4400000100064400064a10fc4500000100064500062c,
   0x10fc4600000100064500062d10fc4700000100064500062e10fc48000001000645000645,
   0x10fc4900000100064500064910fc4a00000100064500064a10fc4b00000100064600062c,
   0x10fc4c00000100064600062d10fc4d00000100064600062e10fc4e000001000646000645,
   0x10fc4f00000100064600064910fc5000000100064600064a10fc5100000100064700062c,
   0x10fc5200000100064700064510fc5300000100064700064910fc5400000100064700064a,
   0x10fc5500000100064a00062c10fc5600000100064a00062d10fc5700000100064a00062e,
   0x10fc5800000100064a00064510fc5900000100064a00064910fc5a00000100064a00064a,
   0x10fc5b00000100063000067010fc5c00000100063100067010fc5d000001000649000670,
   0x10fc6400000100064a00065400063110fc6500000100064a00065400063210fc6600000100064a000654000645,
   0x10fc6700000100064a00065400064610fc6800000100064a00065400064910fc6900000100064a00065400064a,
   0x10fc6a00000100062800063110fc6b00000100062800063210fc6c000001000628000645,
   0x10fc6d00000100062800064610fc6e00000100062800064910fc6f00000100062800064a,
   0x10fc7000000100062a00063110fc7100000100062a00063210fc7200000100062a000645,
   0x10fc7300000100062a00064610fc7400000100062a00064910fc7500000100062a00064a,
   0x10fc7600000100062b00063110fc7700000100062b00063210fc7800000100062b000645,
   0x10fc7900000100062b00064610fc7a00000100062b00064910fc7b00000100062b00064a,
   0x10fc7c00000100064100064910fc7d00000100064100064a10fc7e000001000642000649,
   0x10fc7f00000100064200064a10fc8000000100064300062710fc81000001000643000644,
   0x10fc8200000100064300064510fc8300000100064300064910fc8400000100064300064a,
   0x10fc8500000100064400064510fc8600000100064400064910fc8700000100064400064a,
   0x10fc8800000100064500062710fc8900000100064500064510fc8a000001000646000631,
   0x10fc8b00000100064600063210fc8c00000100064600064510fc8d000001000646000646,
   0x10fc8e00000100064600064910fc8f00000100064600064a10fc90000001000649000670,
   0x10fc9100000100064a00063110fc9200000100064a00063210fc9300000100064a000645,
   0x10fc9400000100064a00064610fc9500000100064a00064910fc9600000100064a00064a,
   0x10fc9700000100064a00065400062c10fc9800000100064a00065400062d10fc9900000100064a00065400062e,
   0x10fc9a00000100064a00065400064510fc9b00000100064a00065400064710fc9c00000100062800062c,
   0x10fc9d00000100062800062d10fc9e00000100062800062e10fc9f000001000628000645,
   0x10fca000000100062800064710fca100000100062a00062c10fca200000100062a00062d,
   0x10fca300000100062a00062e10fca400000100062a00064510fca500000100062a000647,
   0x10fca600000100062b00064510fca700000100062c00062d10fca800000100062c000645,
   0x10fca900000100062d00062c10fcaa00000100062d00064510fcab00000100062e00062c,
   0x10fcac00000100062e00064510fcad00000100063300062c10fcae00000100063300062d,
   0x10fcaf00000100063300062e10fcb000000100063300064510fcb100000100063500062d,
   0x10fcb200000100063500062e10fcb300000100063500064510fcb400000100063600062c,
   0x10fcb500000100063600062d10fcb600000100063600062e10fcb7000001000636000645,
   0x10fcb800000100063700062d10fcb900000100063800064510fcba00000100063900062c,
   0x10fcbb00000100063900064510fcbc00000100063a00062c10fcbd00000100063a000645,
   0x10fcbe00000100064100062c10fcbf00000100064100062d10fcc000000100064100062e,
   0x10fcc100000100064100064510fcc200000100064200062d10fcc3000001000642000645,
   0x10fcc400000100064300062c10fcc500000100064300062d10fcc600000100064300062e,
   0x10fcc700000100064300064410fcc800000100064300064510fcc900000100064400062c,
   0x10fcca00000100064400062d10fccb00000100064400062e10fccc000001000644000645,
   0x10fccd00000100064400064710fcce00000100064500062c10fccf00000100064500062d,
   0x10fcd000000100064500062e10fcd100000100064500064510fcd200000100064600062c,
   0x10fcd300000100064600062d10fcd400000100064600062e10fcd5000001000646000645,
   0x10fcd600000100064600064710fcd700000100064700062c10fcd8000001000647000645,
   0x10fcd900000100064700067010fcda00000100064a00062c10fcdb00000100064a00062d,
   0x10fcdc00000100064a00062e10fcdd00000100064a00064510fcde00000100064a000647,
   0x10fcdf00000100064a00065400064510fce000000100064a00065400064710fce1000001000628000645,
   0x10fce200000100062800064710fce300000100062a00064510fce400000100062a000647,
   0x10fce500000100062b00064510fce600000100062b00064710fce7000001000633000645,
   0x10fce800000100063300064710fce900000100063400064510fcea000001000634000647,
   0x10fceb00000100064300064410fcec00000100064300064510fced000001000644000645,
   0x10fcee00000100064600064510fcef00000100064600064710fcf000000100064a000645,
   0x10fcf100000100064a00064710fcf200000100064000064e00065110fcf300000100064000064f000651,
   0x10fcf400000100064000065000065110fcf500000100063700064910fcf600000100063700064a,
   0x10fcf700000100063900064910fcf800000100063900064a10fcf900000100063a000649,
   0x10fcfa00000100063a00064a10fcfb00000100063300064910fcfc00000100063300064a,
   0x10fcfd00000100063400064910fcfe00000100063400064a10fcff00000100062d000649,
   0x10fd0000000100062d00064a10fd0100000100062c00064910fd0200000100062c00064a,
   0x10fd0300000100062e00064910fd0400000100062e00064a10fd05000001000635000649,
   0x10fd0600000100063500064a10fd0700000100063600064910fd0800000100063600064a,
   0x10fd0900000100063400062c10fd0a00000100063400062d10fd0b00000100063400062e,
   0x10fd0c00000100063400064510fd0d00000100063400063110fd0e000001000633000631,
   0x10fd0f00000100063500063110fd1000000100063600063110fd11000001000637000649,
   0x10fd1200000100063700064a10fd1300000100063900064910fd1400000100063900064a,
   0x10fd1500000100063a00064910fd1600000100063a00064a10fd17000001000633000649,
   0x10fd1800000100063300064a10fd1900000100063400064910fd1a00000100063400064a,
   0x10fd1b00000100062d00064910fd1c00000100062d00064a10fd1d00000100062c000649,
   0x10fd1e00000100062c00064a10fd1f00000100062e00064910fd2000000100062e00064a,
   0x10fd2100000100063500064910fd2200000100063500064a10fd23000001000636000649,
   0x10fd2400000100063600064a10fd2500000100063400062c10fd2600000100063400062d,
   0x10fd2700000100063400062e10fd2800000100063400064510fd29000001000634000631,
   0x10fd2a00000100063300063110fd2b00000100063500063110fd2c000001000636000631,
   0x10fd2d00000100063400062c10fd2e00000100063400062d10fd2f00000100063400062e,
   0x10fd3000000100063400064510fd3100000100063300064710fd32000001000634000647,
   0x10fd3300000100063700064510fd3400000100063300062c10fd3500000100063300062d,
   0x10fd3600000100063300062e10fd3700000100063400062c10fd3800000100063400062d,
   0x10fd3900000100063400062e10fd3a00000100063700064510fd3b000001000638000645,
   0x10fd3c00000100062700064b10fd3d00000100062700064b10fd5000000100062a00062c000645,
   0x10fd5100000100062a00062d00062c10fd5200000100062a00062d00062c10fd5300000100062a00062d000645,
   0x10fd5400000100062a00062e00064510fd5500000100062a00064500062c10fd5600000100062a00064500062d,
   0x10fd5700000100062a00064500062e10fd5800000100062c00064500062d10fd5900000100062c00064500062d,
   0x10fd5a00000100062d00064500064a10fd5b00000100062d00064500064910fd5c00000100063300062d00062c,
   0x10fd5d00000100063300062c00062d10fd5e00000100063300062c00064910fd5f00000100063300064500062d,
   0x10fd6000000100063300064500062d10fd6100000100063300064500062c10fd62000001000633000645000645,
   0x10fd6300000100063300064500064510fd6400000100063500062d00062d10fd6500000100063500062d00062d,
   0x10fd6600000100063500064500064510fd6700000100063400062d00064510fd6800000100063400062d000645,
   0x10fd6900000100063400062c00064a10fd6a00000100063400064500062e10fd6b00000100063400064500062e,
   0x10fd6c00000100063400064500064510fd6d00000100063400064500064510fd6e00000100063600062d000649,
   0x10fd6f00000100063600062e00064510fd7000000100063600062e00064510fd7100000100063700064500062d,
   0x10fd7200000100063700064500062d10fd7300000100063700064500064510fd7400000100063700064500064a,
   0x10fd7500000100063900062c00064510fd7600000100063900064500064510fd77000001000639000645000645,
   0x10fd7800000100063900064500064910fd7900000100063a00064500064510fd7a00000100063a00064500064a,
   0x10fd7b00000100063a00064500064910fd7c00000100064100062e00064510fd7d00000100064100062e000645,
   0x10fd7e00000100064200064500062d10fd7f00000100064200064500064510fd8000000100064400062d000645,
   0x10fd8100000100064400062d00064a10fd8200000100064400062d00064910fd8300000100064400062c00062c,
   0x10fd8400000100064400062c00062c10fd8500000100064400062e00064510fd8600000100064400062e000645,
   0x10fd8700000100064400064500062d10fd8800000100064400064500062d10fd8900000100064500062d00062c,
   0x10fd8a00000100064500062d00064510fd8b00000100064500062d00064a10fd8c00000100064500062c00062d,
   0x10fd8d00000100064500062c00064510fd8e00000100064500062e00062c10fd8f00000100064500062e000645,
   0x10fd9200000100064500062c00062e10fd9300000100064700064500062c10fd94000001000647000645000645,
   0x10fd9500000100064600062d00064510fd9600000100064600062d00064910fd9700000100064600062c000645,
   0x10fd9800000100064600062c00064510fd9900000100064600062c00064910fd9a00000100064600064500064a,
   0x10fd9b00000100064600064500064910fd9c00000100064a00064500064510fd9d00000100064a000645000645,
   0x10fd9e00000100062800062e00064a10fd9f00000100062a00062c00064a10fda000000100062a00062c000649,
   0x10fda100000100062a00062e00064a10fda200000100062a00062e00064910fda300000100062a00064500064a,
   0x10fda400000100062a00064500064910fda500000100062c00064500064a10fda600000100062c00062d000649,
   0x10fda700000100062c00064500064910fda800000100063300062e00064910fda900000100063500062d00064a,
   0x10fdaa00000100063400062d00064a10fdab00000100063600062d00064a10fdac00000100064400062c00064a,
   0x10fdad00000100064400064500064a10fdae00000100064a00062d00064a10fdaf00000100064a00062c00064a,
   0x10fdb000000100064a00064500064a10fdb100000100064500064500064a10fdb200000100064200064500064a,
   0x10fdb300000100064600062d00064a10fdb400000100064200064500062d10fdb500000100064400062d000645,
   0x10fdb600000100063900064500064a10fdb700000100064300064500064a10fdb800000100064600062c00062d,
   0x10fdb900000100064500062e00064a10fdba00000100064400062c00064510fdbb000001000643000645000645,
   0x10fdbc00000100064400062c00064510fdbd00000100064600062c00062d10fdbe00000100062c00062d00064a,
   0x10fdbf00000100062d00062c00064a10fdc000000100064500062c00064a10fdc100000100064100064500064a,
   0x10fdc200000100062800062d00064a10fdc300000100064300064500064510fdc400000100063900062c000645,
   0x10fdc500000100063500064500064510fdc600000100063300062e00064a10fdc700000100064600062c00064a,
   0x10fdf00000010006350006440006d210fdf10000010006420006440006d2,
   0x10fdf200000100062700064400064400064710fdf3000001000627000643000628000631,
   0x10fdf400000100064500062d00064500062f10fdf5000001000635000644000639000645,
   0x10fdf600000100063100063300064800064410fdf700000100063900064400064a000647,
   0x10fdf800000100064800063300064400064510fdf900000100063500064400064910fe3300000100005f,
   0x10fe3400000100005f10fe4d00000100005f10fe4e00000100005f10fe4f00000100005f,
   0x10fe7100000100064000064b10fe7700000100064000064e10fe7900000100064000064f,
   0x10fe7b00000100064000065010fe7d00000100064000065110fe7f00000100064000065210fe80000001000621,
   0x10fe8100000100062700065310fe8200000100062700065310fe83000001000627000654,
   0x10fe8400000100062700065410fe8500000100064800065410fe86000001000648000654,
   0x10fe8700000100062700065510fe8800000100062700065510fe8900000100064a000654,
   0x10fe8a00000100064a00065410fe8b00000100064a00065410fe8c00000100064a00065410fe8d000001000627,
   0x10fe8e00000200062710fe9000000100062810fe9100000100062810fe9200000200062810fe94000002000629,
   0x10fe9600000100062a10fe9700000100062a10fe9800000200062a10fe9a00000100062b10fe9b00000100062b,
   0x10fe9c00000200062b10fe9e00000100062c10fe9f00000100062c10fea000000200062c10fea200000100062d,
   0x10fea300000100062d10fea400000200062d10fea600000100062e10fea700000100062e10fea800000200062e,
   0x10feaa00000200062f10feac00000200063010feae00000200063110feb000000200063210feb2000001000633,
   0x10feb300000100063310feb400000200063310feb600000100063410feb700000100063410feb8000002000634,
   0x10feba00000100063510febb00000100063510febc00000200063510febe00000100063610febf000001000636,
   0x10fec000000200063610fec200000100063710fec300000100063710fec400000200063710fec6000001000638,
   0x10fec700000100063810fec800000200063810feca00000100063910fecb00000100063910fecc000002000639,
   0x10fece00000100063a10fecf00000100063a10fed000000100063a10fed100000100064110fed2000001000641,
   0x10fed300000100064110fed400000200064110fed600000100064210fed700000100064210fed8000002000642,
   0x10feda00000100064310fedb00000100064310fedc00000200064310fede00000100064410fedf000001000644,
   0x10fee000000200064410fee200000100064510fee300000100064510fee400000200064510fee6000001000646,
   0x10fee700000100064610fee800000200064610feea00000100064710feeb00000100064710feec000002000647,
   0x10feee00000200064810fef000000200064910fef200000100064a10fef300000100064a10fef400000100064a,
   0x10fef500000100064400062700065310fef600000100064400062700065310fef7000001000644000627000654,
   0x10fef800000100064400062700065410fef900000100064400062700065510fefa000001000644000627000655,
   0x10fefb00000100064400062710fefc00000100064400062710ff1000000a00003010ff2100001a000041,
   0x10ff3f00000100005f10ff4100001a00006110ff660000010030f210ff670000010030a110ff680000010030a3,
   0x10ff690000010030a510ff6a0000010030a710ff6b0000010030a910ff6c0000010030e310ff6d0000010030e5,
   0x10ff6e0000010030e710ff6f0000010030c310ff700000010030fc10ff710000010030a210ff720000010030a4,
   0x10ff730000010030a610ff740000010030a810ff750000020030aa10ff770000010030ad10ff780000010030af,
   0x10ff790000010030b110ff7a0000010030b310ff7b0000010030b510ff7c0000010030b710ff7d0000010030b9,
   0x10ff7e0000010030bb10ff7f0000010030bd10ff800000010030bf10ff810000010030c110ff820000010030c4,
   0x10ff830000010030c610ff840000010030c810ff850000060030ca10ff8b0000010030d210ff8c0000010030d5,
   0x10ff8d0000010030d810ff8e0000010030db10ff8f0000050030de10ff940000010030e410ff950000010030e6,
   0x10ff960000060030e810ff9c0000010030ef10ff9d0000010030f310ff9e00000200309910ffa0000001001160,
   0x10ffa100000200110010ffa30000010011aa10ffa400000100110210ffa50000020011ac10ffa7000003001103,
   0x10ffaa0000060011b010ffb000000100111a10ffb100000300110610ffb400000100112110ffb500000a001109,
   0x10ffc200000600116110ffca00000600116710ffd200000600116d10ffda0000030011731107810000020002d0,
   0x1107830000010000e61107840000010002991107850000010002531107870000010002a311078800000100ab66,
   0x1107890000010002a511078a0000010002a411078b00000200025611078d000001001d9111078e000001000258,
   0x11078f00000100025e1107900000010002a9110791000001000264110792000001000262110793000001000260,
   0x11079400000100029b11079500000100012711079600000100029c110797000001000267110798000001000284,
   0x1107990000020002aa11079b00000100026c11079c00000101df0411079d00000100a78e11079e00000100026e,
   0x11079f00000101df051107a000000100028e1107a100000101df061107a20000010000f81107a3000002000276,
   0x1107a50000010000711107a600000100027a1107a700000101df081107a800000200027d1107aa000001000280,
   0x1107ab0000010002a81107ac0000010002a61107ad00000100ab671107ae0000010002a71107af000001000288,
   0x1107b0000001002c711107b200000100028f1107b30000020002a11107b50000010002981107b60000030001c0,
   0x1107b900000101df0a1107ba00000101df1e11109a0000010110990110ba11109c00000101109b0110ba,
   0x1110ab0000010110a50110ba11112e00000101113101112711112f000001011132011127,
   0x11134b00000101134701133e11134c0000010113470113571114bb0000010114b90114ba,
   0x1114bc0000010114b90114b01114be0000010114b90114bd1115ba0000010115b80115af,
   0x1115bb0000010115b90115af11193800000101193501193011d40000001a00004111d41a00001a000061,
   0x11d43400001a00004111d44e00000700006111d45600001200006911d46800001a00004111d48200001a000061,
   0x11d49c00000100004111d49e00000200004311d4a200000100004711d4a500000200004a11d4a900000400004e,
   0x11d4ae00000800005311d4b600000400006111d4bb00000100006611d4bd00000700006811d4c500000b000070,
   0x11d4d000001a00004111d4ea00001a00006111d50400000200004111d50700000400004411d50d00000800004a,
   0x11d51600000700005311d51e00001a00006111d53800000200004111d53b00000400004411d540000005000049,
   0x11d54600000100004f11d54a00000700005311d55200001a00006111d56c00001a00004111d58600001a000061,
   0x11d5a000001a00004111d5ba00001a00006111d5d400001a00004111d5ee00001a00006111d60800001a000041,
   0x11d62200001a00006111d63c00001a00004111d65600001a00006111d67000001a00004111d68a00001a000061,
   0x11d6a400000100013111d6a500000100023711d6a800001100039111d6b900000100039811d6ba0000070003a3,
   0x11d6c20000190003b111d6dc0000010003b511d6dd0000010003b811d6de0000010003ba11d6df0000010003c6,
   0x11d6e00000010003c111d6e10000010003c011d6e200001100039111d6f300000100039811d6f40000070003a3,
   0x11d6fc0000190003b111d7160000010003b511d7170000010003b811d7180000010003ba11d7190000010003c6,
   0x11d71a0000010003c111d71b0000010003c011d71c00001100039111d72d00000100039811d72e0000070003a3,
   0x11d7360000190003b111d7500000010003b511d7510000010003b811d7520000010003ba11d7530000010003c6,
   0x11d7540000010003c111d7550000010003c011d75600001100039111d76700000100039811d7680000070003a3,
   0x11d7700000190003b111d78a0000010003b511d78b0000010003b811d78c0000010003ba11d78d0000010003c6,
   0x11d78e0000010003c111d78f0000010003c011d79000001100039111d7a100000100039811d7a20000070003a3,
   0x11d7aa0000190003b111d7c40000010003b511d7c50000010003b811d7c60000010003ba11d7c70000010003c6,
   0x11d7c80000010003c111d7c90000010003c011d7ca0000020003dc11d7ce00000a00003011d7d800000a000030,
   0x11d7e200000a00003011d7ec00000a00003011d7f600000a00003011ee0000000200062711ee0200000100062c,
   0x11ee0300000100062f11ee0500000100064811ee0600000100063211ee0700000100062d11ee08000001000637,
   0x11ee0900000100064a11ee0a00000400064311ee0e00000100063311ee0f00000100063911ee10000001000641,
   0x11ee1100000100063511ee1200000100064211ee1300000100063111ee1400000100063411ee1500000200062a,
   0x11ee1700000100062e11ee1800000100063011ee1900000100063611ee1a00000100063811ee1b00000100063a,
   0x11ee1c00000100066e11ee1d0000010006ba11ee1e0000010006a111ee1f00000100066f11ee21000001000628,
   0x11ee2200000100062c11ee2400000100064711ee2700000100062d11ee2900000100064a11ee2a000004000643,
   0x11ee2e00000100063311ee2f00000100063911ee3000000100064111ee3100000100063511ee32000001000642,
   0x11ee3400000100063411ee3500000200062a11ee3700000100062e11ee3900000100063611ee3b00000100063a,
   0x11ee4200000100062c11ee4700000100062d11ee4900000100064a11ee4b00000100064411ee4d000001000646,
   0x11ee4e00000100063311ee4f00000100063911ee5100000100063511ee5200000100064211ee54000001000634,
   0x11ee5700000100062e11ee5900000100063611ee5b00000100063a11ee5d0000010006ba11ee5f00000100066f,
   0x11ee6100000100062811ee6200000100062c11ee6400000100064711ee6700000100062d11ee68000001000637,
   0x11ee6900000100064a11ee6a00000100064311ee6c00000200064511ee6e00000100063311ee6f000001000639,
   0x11ee7000000100064111ee7100000100063511ee7200000100064211ee7400000100063411ee7500000200062a,
   0x11ee7700000100062e11ee7900000100063611ee7a00000100063811ee7b00000100063a11ee7c00000100066e,
   0x11ee7e0000010006a111ee8000000200062711ee8200000100062c11ee8300000100062f11ee84000002000647,
   0x11ee8600000100063211ee8700000100062d11ee8800000100063711ee8900000100064a11ee8b000003000644,
   0x11ee8e00000100063311ee8f00000100063911ee9000000100064111ee9100000100063511ee92000001000642,
   0x11ee9300000100063111ee9400000100063411ee9500000200062a11ee9700000100062e11ee98000001000630,
   0x11ee9900000100063611ee9a00000100063811ee9b00000100063a11eea100000100062811eea200000100062c,
   0x11eea300000100062f11eea500000100064811eea600000100063211eea700000100062d11eea8000001000637,
   0x11eea900000100064a11eeab00000300064411eeae00000100063311eeaf00000100063911eeb0000001000641,
   0x11eeb100000100063511eeb200000100064211eeb300000100063111eeb400000100063411eeb500000200062a,
   0x11eeb700000100062e11eeb800000100063011eeb900000100063611eeba00000100063811eebb00000100063a,
   0x11fbf000000a00003012f800000001004e3d12f801000001004e3812f802000001004e4112f803000001020122,
   0x12f804000001004f6012f805000001004fae12f806000001004fbb12f80700000100500212f80800000100507a,
   0x12f80900000100509912f80a0000010050e712f80b0000010050cf12f80c00000100349e12f80d00000102063a,
   0x12f80e00000100514d12f80f00000100515412f81000000100516412f81100000100517712f81200000102051c,
   0x12f8130000010034b912f81400000100516712f81500000100518d12f81600000102054b12f817000001005197,
   0x12f8180000010051a412f819000001004ecc12f81a0000010051ac12f81b0000010051b512f81c0000010291df,
   0x12f81d0000010051f512f81e00000100520312f81f0000010034df12f82000000100523b12f821000001005246,
   0x12f82200000100527212f82300000100527712f82400000100351512f8250000010052c712f8260000010052c9,
   0x12f8270000010052e412f8280000010052fa12f82900000200530512f82b00000100531712f82c000001005349,
   0x12f82d00000100535112f82e00000100535a12f82f00000100537312f83000000100537d12f83100000100537f,
   0x12f83200000100537f12f83300000100537f12f834000001020a2c12f83500000100707012f8360000010053ca,
   0x12f8370000010053df12f838000001020b6312f8390000010053eb12f83a0000010053f112f83b000001005406,
   0x12f83c00000100549e12f83d00000100543812f83e00000100544812f83f00000100546812f8400000010054a2,
   0x12f8410000010054f612f84200000100551012f84300000100555312f84400000100556312f845000001005584,
   0x12f84600000100558412f84700000100559912f8480000010055ab12f8490000010055b312f84a0000010055c2,
   0x12f84b00000100571612f84c00000100560612f84d00000100571712f84e00000100565112f84f000001005674,
   0x12f85000000100520712f8510000010058ee12f8520000010057ce12f8530000010057f412f85400000100580d,
   0x12f85500000100578b12f85600000100583212f85700000100583112f8580000010058ac12f8590000010214e4,
   0x12f85a0000010058f212f85b0000010058f712f85c00000100590612f85d00000100591a12f85e000001005922,
   0x12f85f00000100596212f8600000010216a812f8610000010216ea12f8620000010059ec12f863000001005a1b,
   0x12f864000001005a2712f8650000010059d812f866000001005a6612f8670000010036ee12f8680000010036fc,
   0x12f869000001005b0812f86a000001005b3e12f86b000001005b3e12f86c0000010219c812f86d000001005bc3,
   0x12f86e000001005bd812f86f000001005be712f870000001005bf312f871000001021b1812f872000001005bff,
   0x12f873000001005c0612f874000001005f5312f875000001005c2212f87600000100378112f877000001005c60,
   0x12f878000001005c6e12f879000001005cc012f87a000001005c8d12f87b000001021de412f87c000001005d43,
   0x12f87d000001021de612f87e000001005d6e12f87f000001005d6b12f880000001005d7c12f881000002005de1,
   0x12f88300000100382f12f884000001005dfd12f885000001005e2812f886000001005e3d12f887000001005e69,
   0x12f88800000100386212f88900000102218312f88a00000100387c12f88b000001005eb012f88c000001005eb3,
   0x12f88d000001005eb612f88e000001005eca12f88f00000102a39212f890000001005efe12f891000001022331,
   0x12f89200000102233112f89300000100820112f894000001005f2212f895000001005f2212f8960000010038c7,
   0x12f8970000010232b812f8980000010261da12f899000001005f6212f89a000001005f6b12f89b0000010038e3,
   0x12f89c000001005f9a12f89d000001005fcd12f89e000001005fd712f89f000001005ff912f8a0000001006081,
   0x12f8a100000100393a12f8a200000100391c12f8a300000100609412f8a40000010226d412f8a50000010060c7,
   0x12f8a600000100614812f8a700000100614c12f8a800000100614e12f8a900000100614c12f8aa00000100617a,
   0x12f8ab00000100618e12f8ac0000010061b212f8ad0000010061a412f8ae0000010061af12f8af0000010061de,
   0x12f8b00000010061f212f8b10000010061f612f8b200000100621012f8b300000100621b12f8b400000100625d,
   0x12f8b50000010062b112f8b60000010062d412f8b700000100635012f8b8000001022b0c12f8b900000100633d,
   0x12f8ba0000010062fc12f8bb00000100636812f8bc00000100638312f8bd0000010063e412f8be000001022bf1,
   0x12f8bf00000100642212f8c00000010063c512f8c10000010063a912f8c2000001003a2e12f8c3000001006469,
   0x12f8c400000100647e12f8c500000100649d12f8c600000100647712f8c7000001003a6c12f8c800000100654f,
   0x12f8c900000100656c12f8ca00000102300a12f8cb0000010065e312f8cc0000010066f812f8cd000001006649,
   0x12f8ce000001003b1912f8cf00000100669112f8d0000001003b0812f8d1000001003ae412f8d2000001005192,
   0x12f8d300000100519512f8d400000100670012f8d500000100669c12f8d60000010080ad12f8d70000010043d9,
   0x12f8d800000100671712f8d900000100671b12f8da00000100672112f8db00000100675e12f8dc000001006753,
   0x12f8dd0000010233c312f8de000001003b4912f8df0000010067fa12f8e000000100678512f8e1000001006852,
   0x12f8e200000100688512f8e300000102346d12f8e400000100688e12f8e500000100681f12f8e6000001006914,
   0x12f8e7000001003b9d12f8e800000100694212f8e90000010069a312f8ea0000010069ea12f8eb000001006aa8,
   0x12f8ec0000010236a312f8ed000001006adb12f8ee000001003c1812f8ef000001006b2112f8f00000010238a7,
   0x12f8f1000001006b5412f8f2000001003c4e12f8f3000001006b7212f8f4000001006b9f12f8f5000002006bba,
   0x12f8f7000001023a8d12f8f8000001021d0b12f8f9000001023afa12f8fa000001006c4e12f8fb000001023cbc,
   0x12f8fc000001006cbf12f8fd000001006ccd12f8fe000001006c6712f8ff000001006d1612f900000001006d3e,
   0x12f901000001006d7712f902000001006d4112f903000001006d6912f904000001006d7812f905000001006d85,
   0x12f906000001023d1e12f907000001006d3412f908000001006e2f12f909000001006e6e12f90a000001003d33,
   0x12f90b000001006ecb12f90c000001006ec712f90d000001023ed112f90e000001006df912f90f000001006f6e,
   0x12f910000001023f5e12f911000001023f8e12f912000001006fc612f91300000100703912f91400000100701e,
   0x12f91500000100701b12f916000001003d9612f91700000100704a12f91800000100707d12f919000001007077,
   0x12f91a0000010070ad12f91b00000102052512f91c00000100714512f91d00000102426312f91e00000100719c,
   0x12f91f0000010243ab12f92000000100722812f92100000100723512f92200000100725012f923000001024608,
   0x12f92400000100728012f92500000100729512f92600000102473512f92700000102481412f92800000100737a,
   0x12f92900000100738b12f92a000001003eac12f92b0000010073a512f92c000001003eb812f92d000001003eb8,
   0x12f92e00000100744712f92f00000100745c12f93000000100747112f93100000100748512f9320000010074ca,
   0x12f933000001003f1b12f93400000100752412f935000001024c3612f93600000100753e12f937000001024c92,
   0x12f93800000100757012f93900000102219f12f93a00000100761012f93b000001024fa112f93c000001024fb8,
   0x12f93d00000102504412f93e000001003ffc12f93f00000100400812f9400000010076f412f9410000010250f3,
   0x12f9420000010250f212f94300000102511912f94400000102513312f94500000200771e12f94700000100771f,
   0x12f94800000100774a12f94900000100403912f94a00000100778b12f94b00000100404612f94c000001004096,
   0x12f94d00000102541d12f94e00000100784e12f94f00000100788c12f9500000010078cc12f9510000010040e3,
   0x12f95200000102562612f95300000100795612f95400000102569a12f9550000010256c512f95600000100798f,
   0x12f9570000010079eb12f95800000100412f12f959000001007a4012f95a000001007a4a12f95b000001007a4f,
   0x12f95c00000102597c12f95d000001025aa712f95e000001025aa712f95f000001007aee12f960000001004202,
   0x12f961000001025bab12f962000001007bc612f963000001007bc912f96400000100422712f965000001025c80,
   0x12f966000001007cd212f9670000010042a012f968000001007ce812f969000001007ce312f96a000001007d00,
   0x12f96b000001025f8612f96c000001007d6312f96d00000100430112f96e000001007dc712f96f000001007e02,
   0x12f970000001007e4512f97100000100433412f97200000102622812f97300000102624712f974000001004359,
   0x12f9750000010262d912f976000001007f7a12f97700000102633e12f978000001007f9512f979000001007ffa,
   0x12f97a00000100800512f97b0000010264da12f97c00000102652312f97d00000100806012f97e0000010265a8,
   0x12f97f00000100807012f98000000102335f12f9810000010043d512f9820000010080b212f983000001008103,
   0x12f98400000100440b12f98500000100813e12f986000001005ab512f9870000010267a712f9880000010267b5,
   0x12f98900000102339312f98a00000102339c12f98b00000100820112f98c00000100820412f98d000001008f9e,
   0x12f98e00000100446b12f98f00000100829112f99000000100828b12f99100000100829d12f9920000010052b3,
   0x12f9930000010082b112f9940000010082b312f9950000010082bd12f9960000010082e612f997000001026b3c,
   0x12f9980000010082e512f99900000100831d12f99a00000100836312f99b0000010083ad12f99c000001008323,
   0x12f99d0000010083bd12f99e0000010083e712f99f00000100845712f9a000000100835312f9a10000010083ca,
   0x12f9a20000010083cc12f9a30000010083dc12f9a4000001026c3612f9a5000001026d6b12f9a6000001026cd5,
   0x12f9a700000100452b12f9a80000010084f112f9a90000010084f312f9aa00000100851612f9ab0000010273ca,
   0x12f9ac00000100856412f9ad000001026f2c12f9ae00000100455d12f9af00000100456112f9b0000001026fb1,
   0x12f9b10000010270d212f9b200000100456b12f9b300000100865012f9b400000100865c12f9b5000001008667,
   0x12f9b600000100866912f9b70000010086a912f9b800000100868812f9b900000100870e12f9ba0000010086e2,
   0x12f9bb00000100877912f9bc00000100872812f9bd00000100876b12f9be00000100878612f9bf0000010045d7,
   0x12f9c00000010087e112f9c100000100880112f9c20000010045f912f9c300000100886012f9c4000001008863,
   0x12f9c500000102766712f9c60000010088d712f9c70000010088de12f9c800000100463512f9c90000010088fa,
   0x12f9ca0000010034bb12f9cb0000010278ae12f9cc00000102796612f9cd0000010046be12f9ce0000010046c7,
   0x12f9cf000001008aa012f9d0000001008aed12f9d1000001008b8a12f9d2000001008c5512f9d3000001027ca8,
   0x12f9d4000001008cab12f9d5000001008cc112f9d6000001008d1b12f9d7000001008d7712f9d8000001027f2f,
   0x12f9d900000102080412f9da000001008dcb12f9db000001008dbc12f9dc000001008df012f9dd0000010208de,
   0x12f9de000001008ed412f9df000001008f3812f9e00000010285d212f9e10000010285ed12f9e2000001009094,
   0x12f9e30000010090f112f9e400000100911112f9e500000102872e12f9e600000100911b12f9e7000001009238,
   0x12f9e80000020092d712f9ea00000100927c12f9eb0000010093f912f9ec00000100941512f9ed000001028bfa,
   0x12f9ee00000100958b12f9ef00000100499512f9f00000010095b712f9f1000001028d7712f9f20000010049e6,
   0x12f9f30000010096c312f9f4000001005db212f9f500000100972312f9f600000102914512f9f700000102921a,
   0x12f9f8000001004a6e12f9f9000001004a7612f9fa0000010097e012f9fb00000102940a12f9fc000001004ab2,
   0x12f9fd00000102949612f9fe00000100980b12f9ff00000100980b12fa0000000100982912fa010000010295b6,
   0x12fa020000010098e212fa03000001004b3312fa0400000100992912fa050000010099a712fa060000010099c2,
   0x12fa070000010099fe12fa08000001004bce12fa09000001029b3012fa0a000001009b1212fa0b000001009c40,
   0x12fa0c000001009cfd12fa0d000001004cce12fa0e000001004ced12fa0f000001009d6712fa1000000102a0ce,
   0x12fa11000001004cf812fa1200000102a10512fa1300000102a20e12fa1400000102a29112fa15000001009ebb,
   0x12fa16000001004d5612fa17000001009ef912fa18000001009efe12fa19000001009f0512fa1a000001009f0f,
   0x12fa1b000001009f1612fa1c000001009f3b12fa1d00000102a600]

/-- Canonical combining classes, as records `start, count, class`. -/
def combiningTable : List Nat :=
  [0x1003000000150000e61003150000010000e81003160000040000dc10031a0000010000e810031b0000010000d8,
   0x10031c0000050000dc1003210000020000ca1003230000040000dc1003270000020000ca10032900000b0000dc,
   0x1003340000050000011003390000040000dc10033d0000080000e61003450000010000f01003460000010000e6,
   0x1003470000030000dc10034a0000030000e610034d0000020000dc1003500000030000e61003530000040000dc,
   0x1003570000010000e61003580000010000e81003590000020000dc10035b0000010000e610035c0000010000e9,
   0x10035d0000020000ea10035f0000010000e91003600000020000ea1003620000010000e910036300000d0000e6,
   0x1004830000050000e61005910000010000dc1005920000040000e61005960000010000dc1005970000030000e6,
   0x10059a0000010000de10059b0000010000dc10059c0000060000e61005a20000060000dc1005a80000020000e6,
   0x1005aa0000010000dc1005ab0000020000e61005ad0000010000de1005ae0000010000e41005af0000010000e6,
   0x1005b000000100000a1005b100000100000b1005b200000100000c1005b300000100000d1005b400000100000e,
   0x1005b500000100000f1005b60000010000101005b70000010000111005b80000010000121005b9000002000013,
   0x1005bb0000010000141005bc0000010000151005bd0000010000161005bf0000010000171005c1000001000018,
   0x1005c20000010000191005c40000010000e61005c50000010000dc1005c70000010000121006100000080000e6,
   0x10061800000100001e10061900000100001f10061a00000100002010064b00000100001b10064c00000100001c,
   0x10064d00000100001d10064e00000100001e10064f00000100001f100650000001000020100651000001000021,
   0x1006520000010000221006530000020000e61006550000020000dc1006570000050000e610065c0000010000dc,
   0x10065d0000020000e610065f0000010000dc1006700000010000231006d60000070000e61006df0000040000e6,
   0x1006e30000010000dc1006e40000010000e61006e70000020000e61006ea0000010000dc1006eb0000020000e6,
   0x1006ed0000010000dc1007110000010000241007300000010000e61007310000010000dc1007320000020000e6,
   0x1007340000010000dc1007350000020000e61007370000030000dc10073a0000010000e610073b0000020000dc,
   0x10073d0000010000e610073e0000010000dc10073f0000030000e61007420000010000dc1007430000010000e6,
   0x1007440000010000dc1007450000010000e61007460000010000dc1007470000010000e61007480000010000dc,
   0x1007490000020000e61007eb0000070000e61007f20000010000dc1007f30000010000e61007fd0000010000dc,
   0x1008160000040000e610081b0000090000e61008250000030000e61008290000050000e61008590000030000dc,
   0x1008980000010000e61008990000030000dc10089c0000040000e61008ca0000050000e61008cf0000050000dc,
   0x1008d400000e0000e61008e30000010000dc1008e40000020000e61008e60000010000dc1008e70000020000e6,
   0x1008e90000010000dc1008ea0000030000e61008ed0000030000dc1008f000000100001b1008f100000100001c,
   0x1008f200000100001d1008f30000030000e61008f60000010000dc1008f70000020000e61008f90000020000dc,
   0x1008fb0000050000e610093c00000100000710094d0000010000091009510000010000e61009520000010000dc,
   0x1009530000020000e61009bc0000010000071009cd0000010000091009fe0000010000e6100a3c000001000007,
   0x100a4d000001000009100abc000001000007100acd000001000009100b3c000001000007100b4d000001000009,
   0x100bcd000001000009100c3c000001000007100c4d000001000009100c55000001000054100c5600000100005b,
   0x100cbc000001000007100ccd000001000009100d3b000002000009100d4d000001000009100dca000001000009,
   0x100e38000002000067100e3a000001000009100e4800000400006b100eb8000002000076100eba000001000009,
   0x100ec800000400007a100f180000020000dc100f350000010000dc100f370000010000dc100f390000010000d8,
   0x100f71000001000081100f72000001000082100f74000001000084100f7a000004000082100f80000001000082,
   0x100f820000020000e6100f84000001000009100f860000020000e6100fc60000010000dc101037000001000007,
   0x10103900000200000910108d0000010000dc10135d0000030000e6101714000002000009101734000001000009,
   0x1017d20000010000091017dd0000010000e61018a90000010000e41019390000010000de10193a0000010000e6,
   0x10193b0000010000dc101a170000010000e6101a180000010000dc101a60000001000009101a750000080000e6,
   0x101a7f0000010000dc101ab00000050000e6101ab50000060000dc101abb0000020000e6101abd0000010000dc,
   0x101abf0000020000dc101ac10000020000e6101ac30000020000dc101ac50000050000e6101aca0000010000dc,
   0x101acb0000040000e6101b34000001000007101b44000001000009101b6b0000010000e6101b6c0000010000dc,
   0x101b6d0000070000e6101baa000002000009101be6000001000007101bf2000002000009101c37000001000007,
   0x101cd00000030000e6101cd4000001000001101cd50000050000dc101cda0000020000e6101cdc0000040000dc,
   0x101ce00000010000e6101ce2000007000001101ced0000010000dc101cf40000010000e6101cf80000020000e6,
   0x101dc00000020000e6101dc20000010000dc101dc30000070000e6101dca0000010000dc101dcb0000020000e6,
   0x101dcd0000010000ea101dce0000010000d6101dcf0000010000dc101dd00000010000ca101dd10000250000e6,
   0x101df60000010000e8101df70000020000e4101df90000010000dc101dfa0000010000da101dfb0000010000e6,
   0x101dfc0000010000e9101dfd0000010000dc101dfe0000010000e6101dff0000010000dc1020d00000020000e6,
   0x1020d20000020000011020d40000040000e61020d80000030000011020db0000020000e61020e10000010000e6,
   0x1020e50000020000011020e70000010000e61020e80000010000dc1020e90000010000e61020ea000002000001,
   0x1020ec0000040000dc1020f00000010000e6102cef0000030000e6102d7f000001000009102de00000200000e6,
   0x10302a0000010000da10302b0000010000e410302c0000010000e810302d0000010000de10302e0000020000e0,
   0x10309900000200000810a66f0000010000e610a67400000a0000e610a69e0000020000e610a6f00000020000e6,
   0x10a80600000100000910a82c00000100000910a8c400000100000910a8e00000120000e610a92b0000030000dc,
   0x10a95300000100000910a9b300000100000710a9c000000100000910aab00000010000e610aab20000020000e6,
   0x10aab40000010000dc10aab70000020000e610aabe0000020000e610aac10000010000e610aaf6000001000009,
   0x10abed00000100000910fb1e00000100001a10fe200000070000e610fe270000070000dc10fe2e0000020000e6,
   0x1101fd0000010000dc1102e00000010000dc1103760000050000e6110a0d0000010000dc110a0f0000010000e6,
   0x110a380000010000e6110a39000001000001110a3a0000010000dc110a3f000001000009110ae50000010000e6,
   0x110ae60000010000dc110d240000040000e6110eab0000020000e6110f460000020000dc110f480000030000e6,
   0x110f4b0000010000dc110f4c0000010000e6110f4d0000040000dc110f820000010000e6110f830000010000dc,
   0x110f840000010000e6110f850000010000dc11104600000100000911107000000100000911107f000001000009,
   0x1110b90000010000091110ba0000010000071111000000030000e6111133000002000009111173000001000007,
   0x1111c00000010000091111ca0000010000071112350000010000091112360000010000071112e9000001000007,
   0x1112ea00000100000911133b00000200000711134d0000010000091113660000070000e61113700000050000e6,
   0x11144200000100000911144600000100000711145e0000010000e61114c20000010000091114c3000001000007,
   0x1115bf0000010000091115c000000100000711163f0000010000091116b60000010000091116b7000001000007,
   0x11172b00000100000911183900000100000911183a00000100000711193d000002000009111943000001000007,
   0x1119e0000001000009111a34000001000009111a47000001000009111a99000001000009111c3f000001000009,
   0x111d42000001000007111d44000002000009111d97000001000009116af0000005000001116b300000070000e6,
   0x116ff000000200000611bc9e00000100000111d1650000020000d811d16700000300000111d16d0000010000e2,
   0x11d16e0000050000d811d17b0000080000dc11d1850000050000e611d18a0000020000dc11d1aa0000040000e6,
   0x11d2420000030000e611e0000000070000e611e0080000110000e611e01b0000070000e611e0230000020000e6,
   0x11e0260000050000e611e1300000070000e611e2ae0000010000e611e2ec0000040000e611e8d00000070000dc,
   0x11e9440000060000e611e94a000001000007]

/-- Canonical compositions, as records `first, second, composed`. -/
def compositionTable : List Nat :=
  [0x1000410003000000c01000410003010000c11000410003020000c21000410003030000c31000410003080000c4,
   0x10004100030a0000c51000430003270000c71000450003000000c81000450003010000c91000450003020000ca,
   0x1000450003080000cb1000490003000000cc1000490003010000cd1000490003020000ce1000490003080000cf,
   0x10004e0003030000d110004f0003000000d210004f0003010000d310004f0003020000d410004f0003030000d5,
   0x10004f0003080000d61000550003000000d91000550003010000da1000550003020000db1000550003080000dc,
   0x1000590003010000dd1000610003000000e01000610003010000e11000610003020000e21000610003030000e3,
   0x1000610003080000e410006100030a0000e51000630003270000e71000650003000000e81000650003010000e9,
   0x1000650003020000ea1000650003080000eb1000690003000000ec1000690003010000ed1000690003020000ee,
   0x1000690003080000ef10006e0003030000f110006f0003000000f210006f0003010000f310006f0003020000f4,
   0x10006f0003030000f510006f0003080000f61000750003000000f91000750003010000fa1000750003020000fb,
   0x1000750003080000fc1000790003010000fd1000790003080000ff100041000304000100100061000304000101,
   0x100041000306000102100061000306000103100041000328000104100061000328000105100043000301000106,
   0x10006300030100010710004300030200010810006300030200010910004300030700010a10006300030700010b,
   0x10004300030c00010c10006300030c00010d10004400030c00010e10006400030c00010f100045000304000112,
   0x100065000304000113100045000306000114100065000306000115100045000307000116100065000307000117,
   0x10004500032800011810006500032800011910004500030c00011a10006500030c00011b10004700030200011c,
   0x10006700030200011d10004700030600011e10006700030600011f100047000307000120100067000307000121,
   0x100047000327000122100067000327000123100048000302000124100068000302000125100049000303000128,
   0x10006900030300012910004900030400012a10006900030400012b10004900030600012c10006900030600012d,
   0x10004900032800012e10006900032800012f10004900030700013010004a00030200013410006a000302000135,
   0x10004b00032700013610006b00032700013710004c00030100013910006c00030100013a10004c00032700013b,
   0x10006c00032700013c10004c00030c00013d10006c00030c00013e10004e00030100014310006e000301000144,
   0x10004e00032700014510006e00032700014610004e00030c00014710006e00030c00014810004f00030400014c,
   0x10006f00030400014d10004f00030600014e10006f00030600014f10004f00030b00015010006f00030b000151,
   0x10005200030100015410007200030100015510005200032700015610007200032700015710005200030c000158,
   0x10007200030c00015910005300030100015a10007300030100015b10005300030200015c10007300030200015d,
   0x10005300032700015e10007300032700015f10005300030c00016010007300030c000161100054000327000162,
   0x10007400032700016310005400030c00016410007400030c000165100055000303000168100075000303000169,
   0x10005500030400016a10007500030400016b10005500030600016c10007500030600016d10005500030a00016e,
   0x10007500030a00016f10005500030b00017010007500030b000171100055000328000172100075000328000173,
   0x100057000302000174100077000302000175100059000302000176100079000302000177100059000308000178,
   0x10005a00030100017910007a00030100017a10005a00030700017b10007a00030700017c10005a00030c00017d,
   0x10007a00030c00017e10004f00031b0001a010006f00031b0001a110005500031b0001af10007500031b0001b0,
   0x10004100030c0001cd10006100030c0001ce10004900030c0001cf10006900030c0001d010004f00030c0001d1,
   0x10006f00030c0001d210005500030c0001d310007500030c0001d41000dc0003040001d51000fc0003040001d6,
   0x1000dc0003010001d71000fc0003010001d81000dc00030c0001d91000fc00030c0001da1000dc0003000001db,
   0x1000fc0003000001dc1000c40003040001de1000e40003040001df1002260003040001e01002270003040001e1,
   0x1000c60003040001e21000e60003040001e310004700030c0001e610006700030c0001e710004b00030c0001e8,
   0x10006b00030c0001e910004f0003280001ea10006f0003280001eb1001ea0003040001ec1001eb0003040001ed,
   0x1001b700030c0001ee10029200030c0001ef10006a00030c0001f01000470003010001f41000670003010001f5,
   0x10004e0003000001f810006e0003000001f91000c50003010001fa1000e50003010001fb1000c60003010001fc,
   0x1000e60003010001fd1000d80003010001fe1000f80003010001ff10004100030f00020010006100030f000201,
   0x10004100031100020210006100031100020310004500030f00020410006500030f000205100045000311000206,
   0x10006500031100020710004900030f00020810006900030f00020910004900031100020a10006900031100020b,
   0x10004f00030f00020c10006f00030f00020d10004f00031100020e10006f00031100020f10005200030f000210,
   0x10007200030f00021110005200031100021210007200031100021310005500030f00021410007500030f000215,
   0x10005500031100021610007500031100021710005300032600021810007300032600021910005400032600021a,
   0x10007400032600021b10004800030c00021e10006800030c00021f100041000307000226100061000307000227,
   0x1000450003270002281000650003270002291000d600030400022a1000f600030400022b1000d500030400022c,
   0x1000f500030400022d10004f00030700022e10006f00030700022f10022e00030400023010022f000304000231,
   0x1000590003040002321000790003040002331000a8000301000385100391000301000386100395000301000388,
   0x10039700030100038910039900030100038a10039f00030100038c1003a500030100038e1003a900030100038f,
   0x1003ca0003010003901003990003080003aa1003a50003080003ab1003b10003010003ac1003b50003010003ad,
   0x1003b70003010003ae1003b90003010003af1003cb0003010003b01003b90003080003ca1003c50003080003cb,
   0x1003bf0003010003cc1003c50003010003cd1003c90003010003ce1003d20003010003d31003d20003080003d4,
   0x10041500030000040010041500030800040110041300030100040310040600030800040710041a00030100040c,
   0x10041800030000040d10042300030600040e100418000306000419100438000306000439100435000300000450,
   0x10043500030800045110043300030100045310045600030800045710043a00030100045c10043800030000045d,
   0x10044300030600045e10047400030f00047610047500030f0004771004160003060004c11004360003060004c2,
   0x1004100003060004d01004300003060004d11004100003080004d21004300003080004d31004150003060004d6,
   0x1004350003060004d71004d80003080004da1004d90003080004db1004160003080004dc1004360003080004dd,
   0x1004170003080004de1004370003080004df1004180003040004e21004380003040004e31004180003080004e4,
   0x1004380003080004e510041e0003080004e610043e0003080004e71004e80003080004ea1004e90003080004eb,
   0x10042d0003080004ec10044d0003080004ed1004230003040004ee1004430003040004ef1004230003080004f0,
   0x1004430003080004f110042300030b0004f210044300030b0004f31004270003080004f41004470003080004f5,
   0x10042b0003080004f810044b0003080004f9100627000653000622100627000654000623100648000654000624,
   0x10062700065500062510064a0006540006261006d50006540006c01006c10006540006c21006d20006540006d3,
   0x10092800093c00092910093000093c00093110093300093c0009341009c70009be0009cb1009c70009d70009cc,
   0x100b47000b56000b48100b47000b3e000b4b100b47000b57000b4c100b92000bd7000b94100bc6000bbe000bca,
   0x100bc7000bbe000bcb100bc6000bd7000bcc100c46000c56000c48100cbf000cd5000cc0100cc6000cd5000cc7,
   0x100cc6000cd6000cc8100cc6000cc2000cca100cca000cd5000ccb100d46000d3e000d4a100d47000d3e000d4b,
   0x100d46000d57000d4c100dd9000dca000dda100dd9000dcf000ddc100ddc000dca000ddd100dd9000ddf000dde,
   0x10102500102e001026101b05001b35001b06101b07001b35001b08101b09001b35001b0a101b0b001b35001b0c,
   0x101b0d001b35001b0e101b11001b35001b12101b3a001b35001b3b101b3c001b35001b3d101b3e001b35001b40,
   0x101b3f001b35001b41101b42001b35001b43100041000325001e00100061000325001e01100042000307001e02,
   0x100062000307001e03100042000323001e04100062000323001e05100042000331001e06100062000331001e07,
   0x1000c7000301001e081000e7000301001e09100044000307001e0a100064000307001e0b100044000323001e0c,
   0x100064000323001e0d100044000331001e0e100064000331001e0f100044000327001e10100064000327001e11,
   0x10004400032d001e1210006400032d001e13100112000300001e14100113000300001e15100112000301001e16,
   0x100113000301001e1710004500032d001e1810006500032d001e19100045000330001e1a100065000330001e1b,
   0x100228000306001e1c100229000306001e1d100046000307001e1e100066000307001e1f100047000304001e20,
   0x100067000304001e21100048000307001e22100068000307001e23100048000323001e24100068000323001e25,
   0x100048000308001e26100068000308001e27100048000327001e28100068000327001e2910004800032e001e2a,
   0x10006800032e001e2b100049000330001e2c100069000330001e2d1000cf000301001e2e1000ef000301001e2f,
   0x10004b000301001e3010006b000301001e3110004b000323001e3210006b000323001e3310004b000331001e34,
   0x10006b000331001e3510004c000323001e3610006c000323001e37101e36000304001e38101e37000304001e39,
   0x10004c000331001e3a10006c000331001e3b10004c00032d001e3c10006c00032d001e3d10004d000301001e3e,
   0x10006d000301001e3f10004d000307001e4010006d000307001e4110004d000323001e4210006d000323001e43,
   0x10004e000307001e4410006e000307001e4510004e000323001e4610006e000323001e4710004e000331001e48,
   0x10006e000331001e4910004e00032d001e4a10006e00032d001e4b1000d5000301001e4c1000f5000301001e4d,
   0x1000d5000308001e4e1000f5000308001e4f10014c000300001e5010014d000300001e5110014c000301001e52,
   0x10014d000301001e53100050000301001e54100070000301001e55100050000307001e56100070000307001e57,
   0x100052000307001e58100072000307001e59100052000323001e5a100072000323001e5b101e5a000304001e5c,
   0x101e5b000304001e5d100052000331001e5e100072000331001e5f100053000307001e60100073000307001e61,
   0x100053000323001e62100073000323001e6310015a000307001e6410015b000307001e65100160000307001e66,
   0x100161000307001e67101e62000307001e68101e63000307001e69100054000307001e6a100074000307001e6b,
   0x100054000323001e6c100074000323001e6d100054000331001e6e100074000331001e6f10005400032d001e70,
   0x10007400032d001e71100055000324001e72100075000324001e73100055000330001e74100075000330001e75,
   0x10005500032d001e7610007500032d001e77100168000301001e78100169000301001e7910016a000308001e7a,
   0x10016b000308001e7b100056000303001e7c100076000303001e7d100056000323001e7e100076000323001e7f,
   0x100057000300001e80100077000300001e81100057000301001e82100077000301001e83100057000308001e84,
   0x100077000308001e85100057000307001e86100077000307001e87100057000323001e88100077000323001e89,
   0x100058000307001e8a100078000307001e8b100058000308001e8c100078000308001e8d100059000307001e8e,
   0x100079000307001e8f10005a000302001e9010007a000302001e9110005a000323001e9210007a000323001e93,
   0x10005a000331001e9410007a000331001e95100068000331001e96100074000308001e9710007700030a001e98,
   0x10007900030a001e9910017f000307001e9b100041000323001ea0100061000323001ea1100041000309001ea2,
   0x100061000309001ea31000c2000301001ea41000e2000301001ea51000c2000300001ea61000e2000300001ea7,
   0x1000c2000309001ea81000e2000309001ea91000c2000303001eaa1000e2000303001eab101ea0000302001eac,
   0x101ea1000302001ead100102000301001eae100103000301001eaf100102000300001eb0100103000300001eb1,
   0x100102000309001eb2100103000309001eb3100102000303001eb4100103000303001eb5101ea0000306001eb6,
   0x101ea1000306001eb7100045000323001eb8100065000323001eb9100045000309001eba100065000309001ebb,
   0x100045000303001ebc100065000303001ebd1000ca000301001ebe1000ea000301001ebf1000ca000300001ec0,
   0x1000ea000300001ec11000ca000309001ec21000ea000309001ec31000ca000303001ec41000ea000303001ec5,
   0x101eb8000302001ec6101eb9000302001ec7100049000309001ec8100069000309001ec9100049000323001eca,
   0x100069000323001ecb10004f000323001ecc10006f000323001ecd10004f000309001ece10006f000309001ecf,
   0x1000d4000301001ed01000f4000301001ed11000d4000300001ed21000f4000300001ed31000d4000309001ed4,
   0x1000f4000309001ed51000d4000303001ed61000f4000303001ed7101ecc000302001ed8101ecd000302001ed9,
   0x1001a0000301001eda1001a1000301001edb1001a0000300001edc1001a1000300001edd1001a0000309001ede,
   0x1001a1000309001edf1001a0000303001ee01001a1000303001ee11001a0000323001ee21001a1000323001ee3,
   0x100055000323001ee4100075000323001ee5100055000309001ee6100075000309001ee71001af000301001ee8,
   0x1001b0000301001ee91001af000300001eea1001b0000300001eeb1001af000309001eec1001b0000309001eed,
   0x1001af000303001eee1001b0000303001eef1001af000323001ef01001b0000323001ef1100059000300001ef2,
   0x100079000300001ef3100059000323001ef4100079000323001ef5100059000309001ef6100079000309001ef7,
   0x100059000303001ef8100079000303001ef91003b1000313001f001003b1000314001f01101f00000300001f02,
   0x101f01000300001f03101f00000301001f04101f01000301001f05101f00000342001f06101f01000342001f07,
   0x100391000313001f08100391000314001f09101f08000300001f0a101f09000300001f0b101f08000301001f0c,
   0x101f09000301001f0d101f08000342001f0e101f09000342001f0f1003b5000313001f101003b5000314001f11,
   0x101f10000300001f12101f11000300001f13101f10000301001f14101f11000301001f15100395000313001f18,
   0x100395000314001f19101f18000300001f1a101f19000300001f1b101f18000301001f1c101f19000301001f1d,
   0x1003b7000313001f201003b7000314001f21101f20000300001f22101f21000300001f23101f20000301001f24,
   0x101f21000301001f25101f20000342001f26101f21000342001f27100397000313001f28100397000314001f29,
   0x101f28000300001f2a101f29000300001f2b101f28000301001f2c101f29000301001f2d101f28000342001f2e,
   0x101f29000342001f2f1003b9000313001f301003b9000314001f31101f30000300001f32101f31000300001f33,
   0x101f30000301001f34101f31000301001f35101f30000342001f36101f31000342001f37100399000313001f38,
   0x100399000314001f39101f38000300001f3a101f39000300001f3b101f38000301001f3c101f39000301001f3d,
   0x101f38000342001f3e101f39000342001f3f1003bf000313001f401003bf000314001f41101f40000300001f42,
   0x101f41000300001f43101f40000301001f44101f41000301001f4510039f000313001f4810039f000314001f49,
   0x101f48000300001f4a101f49000300001f4b101f48000301001f4c101f49000301001f4d1003c5000313001f50,
   0x1003c5000314001f51101f50000300001f52101f51000300001f53101f50000301001f54101f51000301001f55,
   0x101f50000342001f56101f51000342001f571003a5000314001f59101f59000300001f5b101f59000301001f5d,
   0x101f59000342001f5f1003c9000313001f601003c9000314001f61101f60000300001f62101f61000300001f63,
   0x101f60000301001f64101f61000301001f65101f60000342001f66101f61000342001f671003a9000313001f68,
   0x1003a9000314001f69101f68000300001f6a101f69000300001f6b101f68000301001f6c101f69000301001f6d,
   0x101f68000342001f6e101f69000342001f6f1003b1000300001f701003b5000300001f721003b7000300001f74,
   0x1003b9000300001f761003bf000300001f781003c5000300001f7a1003c9000300001f7c101f00000345001f80,
   0x101f01000345001f81101f02000345001f82101f03000345001f83101f04000345001f84101f05000345001f85,
   0x101f06000345001f86101f07000345001f87101f08000345001f88101f09000345001f89101f0a000345001f8a,
   0x101f0b000345001f8b101f0c000345001f8c101f0d000345001f8d101f0e000345001f8e101f0f000345001f8f,
   0x101f20000345001f90101f21000345001f91101f22000345001f92101f23000345001f93101f24000345001f94,
   0x101f25000345001f95101f26000345001f96101f27000345001f97101f28000345001f98101f29000345001f99,
   0x101f2a000345001f9a101f2b000345001f9b101f2c000345001f9c101f2d000345001f9d101f2e000345001f9e,
   0x101f2f000345001f9f101f60000345001fa0101f61000345001fa1101f62000345001fa2101f63000345001fa3,
   0x101f64000345001fa4101f65000345001fa5101f66000345001fa6101f67000345001fa7101f68000345001fa8,
   0x101f69000345001fa9101f6a000345001faa101f6b000345001fab101f6c000345001fac101f6d000345001fad,
   0x101f6e000345001fae101f6f000345001faf1003b1000306001fb01003b1000304001fb1101f70000345001fb2,
   0x1003b1000345001fb31003ac000345001fb41003b1000342001fb6101fb6000345001fb7100391000306001fb8,
   0x100391000304001fb9100391000300001fba100391000345001fbc1000a8000342001fc1101f74000345001fc2,
   0x1003b7000345001fc31003ae000345001fc41003b7000342001fc6101fc6000345001fc7100395000300001fc8,
   0x100397000300001fca100397000345001fcc101fbf000300001fcd101fbf000301001fce101fbf000342001fcf,
   0x1003b9000306001fd01003b9000304001fd11003ca000300001fd21003b9000342001fd61003ca000342001fd7,
   0x100399000306001fd8100399000304001fd9100399000300001fda101ffe000300001fdd101ffe000301001fde,
   0x101ffe000342001fdf1003c5000306001fe01003c5000304001fe11003cb000300001fe21003c1000313001fe4,
   0x1003c1000314001fe51003c5000342001fe61003cb000342001fe71003a5000306001fe81003a5000304001fe9,
   0x1003a5000300001fea1003a1000314001fec1000a8000300001fed101f7c000345001ff21003c9000345001ff3,
   0x1003ce000345001ff41003c9000342001ff6101ff6000345001ff710039f000300001ff81003a9000300001ffa,
   0x1003a9000345001ffc10219000033800219a10219200033800219b1021940003380021ae1021d00003380021cd,
   0x1021d40003380021ce1021d20003380021cf10220300033800220410220800033800220910220b00033800220c,
   0x10222300033800222410222500033800222610223c000338002241102243000338002244102245000338002247,
   0x10224800033800224910003d00033800226010226100033800226210224d00033800226d10003c00033800226e,
   0x10003e00033800226f102264000338002270102265000338002271102272000338002274102273000338002275,
   0x10227600033800227810227700033800227910227a00033800228010227b000338002281102282000338002284,
   0x1022830003380022851022860003380022881022870003380022891022a20003380022ac1022a80003380022ad,
   0x1022a90003380022ae1022ab0003380022af10227c0003380022e010227d0003380022e11022910003380022e2,
   0x1022920003380022e31022b20003380022ea1022b30003380022eb1022b40003380022ec1022b50003380022ed,
   0x10304b00309900304c10304d00309900304e10304f003099003050103051003099003052103053003099003054,
   0x10305500309900305610305700309900305810305900309900305a10305b00309900305c10305d00309900305e,
   0x10305f003099003060103061003099003062103064003099003065103066003099003067103068003099003069,
   0x10306f00309900307010306f00309a00307110307200309900307310307200309a003074103075003099003076,
   0x10307500309a00307710307800309900307910307800309a00307a10307b00309900307c10307b00309a00307d,
   0x10304600309900309410309d00309900309e1030ab0030990030ac1030ad0030990030ae1030af0030990030b0,
   0x1030b10030990030b21030b30030990030b41030b50030990030b61030b70030990030b81030b90030990030ba,
   0x1030bb0030990030bc1030bd0030990030be1030bf0030990030c01030c10030990030c21030c40030990030c5,
   0x1030c60030990030c71030c80030990030c91030cf0030990030d01030cf00309a0030d11030d20030990030d3,
   0x1030d200309a0030d41030d50030990030d61030d500309a0030d71030d80030990030d91030d800309a0030da,
   0x1030db0030990030dc1030db00309a0030dd1030a60030990030f41030ef0030990030f71030f00030990030f8,
   0x1030f10030990030f91030f20030990030fa1030fd0030990030fe1110990110ba01109a11109b0110ba01109c,
   0x1110a50110ba0110ab11113101112701112e11113201112701112f11134701133e01134b11134701135701134c,
   0x1114b90114ba0114bb1114b90114b00114bc1114b90114bd0114be1115b80115af0115ba1115b90115af0115bb,
   0x111935011930011938]

/-- Read a line of a table from its end, at most `fuel` numbers; `record` holds the numbers of the
record that is being read, and `records` those behind it. -/
def readLine (fuel line : Nat) (record : List Nat) (records : List (List Nat)) :
    List (List Nat) :=
  match fuel with
  | 0 => records
  | fuel + 1 =>
    if line == 0 then records
    else
      let number := line % 0x1000000
      if number < 0x100000 then readLine fuel (line / 0x1000000) (number :: record) records
      else readLine fuel (line / 0x1000000) [] (((number - 0x100000) :: record) :: records)

/-- The records of a table. -/
def readRecords (table : List Nat) : List (List Nat) :=
  table.flatMap fun line => readLine 16 line [] []

/-- Full decomposition of each character that has one. -/
def decompositions : Std.HashMap Nat (List Nat) :=
  (readRecords decompositionTable).foldl (fun table record =>
    match record with
    | [start, count, target] =>
      (List.range count).foldl (fun table i => table.insert (start + i) [target + i]) table
    | start :: _ :: targets => table.insert start targets
    | _ => table) ∅

/-- Combining class of each character whose class is not zero. -/
def combiningClasses : Std.HashMap Nat Nat :=
  (readRecords combiningTable).foldl (fun table record =>
    match record with
    | [start, count, value] =>
      (List.range count).foldl (fun table i => table.insert (start + i) value) table
    | _ => table) ∅

/-- Composed character of each pair that has one. -/
def compositions : Std.HashMap (Nat × Nat) Nat :=
  (readRecords compositionTable).foldl (fun table record =>
    match record with
    | [first, second, composed] => table.insert (first, second) composed
    | _ => table) ∅

/-- Combining class of a code point, zero for starters. -/
def combiningClass (point : Nat) : Nat := combiningClasses.getD point 0

/-- First Hangul syllable. -/
def hangulBase : Nat := 0xAC00

/-- Full compatibility decomposition of one code point. -/
def decompose (point : Nat) : List Nat :=
  if hangulBase ≤ point && point < hangulBase + 11172 then
    let index := point - hangulBase
    let trail := index % 28
    [0x1100 + index / 588, 0x1161 + index % 588 / 28] ++
      (if trail == 0 then [] else [0x11A7 + trail])
  else decompositions.getD point [point]

/-- Insert a mark into a run of marks after those of the same or a lower class. -/
def insertMark (mark : Nat) : List Nat → List Nat
  | [] => [mark]
  | other :: marks =>
    if combiningClass other ≤ combiningClass mark then other :: insertMark mark marks
    else mark :: other :: marks

/-- Put every run of marks into canonical order; `run` is the sorted run read so far. -/
def reorder (run : List Nat) : List Nat → List Nat
  | [] => run
  | point :: points =>
    if combiningClass point == 0 then run ++ point :: reorder [] points
    else reorder (insertMark point run) points

/-- Composition of two adjacent code points, if there is one. -/
def composePair (first second : Nat) : Option Nat :=
  if 0x1100 ≤ first && first < 0x1113 && 0x1161 ≤ second && second < 0x1176 then
    some (hangulBase + ((first - 0x1100) * 21 + (second - 0x1161)) * 28)
  else if hangulBase ≤ first && first < hangulBase + 11172 && (first - hangulBase) % 28 == 0
      && 0x11A7 < second && second < 0x11C3 then
    some (first + (second - 0x11A7))
  else compositions.get? (first, second)

/-- Compose a reordered sequence. `starter` is the last starter, `marks` the code points kept
after it in reverse, `blocked` the class of the last of them. -/
def composeFrom (starter : Option Nat) (marks : List Nat) (blocked : Option Nat) :
    List Nat → List Nat
  | [] => starter.toList ++ marks.reverse
  | point :: points =>
    let value := combiningClass point
    let open_ := match blocked with
      | none => true
      | some last => last < value
    match starter.bind fun first => if open_ then composePair first point else none with
    | some composed => composeFrom (some composed) marks blocked points
    | none =>
      if value == 0 then
        starter.toList ++ marks.reverse ++ composeFrom (some point) [] none points
      else composeFrom starter (point :: marks) (some value) points

/-- Compatibility composition of a sequence of code points. -/
def composePoints (points : List Nat) : List Nat :=
  composeFrom none [] none (reorder [] (points.flatMap decompose))

/-- Compatibility composition of a text; ASCII text is its own. -/
def composeText (text : List Char) : List Char :=
  if text.all isAscii then text
  else (composePoints (text.map Char.toNat)).map Char.ofNat

end Registrar.Compatibility
