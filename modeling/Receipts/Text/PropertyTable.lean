/-!
# Categories and scripts of characters

The values of a property for all code points in order, as runs. A run is written
as its value, which begins with a capital letter, followed by the number of code
points in the run unless it is one. A set is written as ranges of hexadecimal
code points.
-/

namespace Receipts.Text

/-- The general categories. -/
def categoryRuns : String :=
  String.join [
    "Cc32ZsPo3ScPo3PsPePoSmPoPdPo2Nd10Po2Sm3Po2Lu26PsPoPeSkPcSkLl26PsSmPeSmCc33ZsPoSc4SoPoSkSo",
    "LoPiSmCfSoSkSoSmNo2SkLlPo2SkNoLoPfNo3PoLu23SmLu7Ll24SmLl8LuLlLuLlLuLlLuLlLuLlLuLlLuLlLuLl",
    "LuLlLuLlLuLlLuLlLuLlLuLlLuLlLuLlLuLlLuLlLuLlLuLlLuLlLuLlLuLlLuLlLuLlLuLlLuLlLuLl2LuLlLuLl",
    "LuLlLuLlLuLlLuLlLuLlLuLl2LuLlLuLlLuLlLuLlLuLlLuLlLuLlLuLlLuLlLuLlLuLlLuLlLuLlLuLlLuLlLuLl",
    "LuLlLuLlLuLlLuLlLuLlLuLlLuLlLu2LlLuLlLuLl3Lu2LlLuLlLu2LlLu3Ll2Lu4LlLu2LlLu3Ll3Lu2LlLu2LlLu",
    "LlLuLlLu2LlLuLl2LuLlLu2LlLu3LlLuLlLu2Ll2LoLuLl3Lo4LuLtLlLuLtLlLuLtLlLuLlLuLlLuLlLuLlLuLlLu",
    "LlLuLlLuLl2LuLlLuLlLuLlLuLlLuLlLuLlLuLlLuLlLuLl2LuLtLlLuLlLu3LlLuLlLuLlLuLlLuLlLuLlLuLlLu",
    "LlLuLlLuLlLuLlLuLlLuLlLuLlLuLlLuLlLuLlLuLlLuLlLuLlLuLlLuLlLuLlLuLlLuLlLuLlLuLlLuLlLuLlLu",
    "Ll7Lu2LlLu2Ll2LuLlLu4LlLuLlLuLlLuLlLuLl69LoLl27Lm18Sk4Lm12Sk14Lm5Sk7LmSkLmSk17Mn112LuLlLu",
    "LlLmSkLuLlCn2LmLl3PoLuCn4Sk2LuPoLu3CnLuCnLu2LlLu17CnLu9Ll35LuLl2Lu3Ll3LuLlLuLlLuLlLuLlLuLl",
    "LuLlLuLlLuLlLuLlLuLlLuLlLuLl5LuLlSmLuLlLu2Ll2Lu51Ll48LuLlLuLlLuLlLuLlLuLlLuLlLuLlLuLlLuLl",
    "LuLlLuLlLuLlLuLlLuLlLuLlLuLlLuLlSoMn5Me2LuLlLuLlLuLlLuLlLuLlLuLlLuLlLuLlLuLlLuLlLuLlLuLlLu",
    "LlLuLlLuLlLuLlLuLlLuLlLuLlLuLlLuLlLuLlLuLlLuLlLuLlLuLlLuLlLu2LlLuLlLuLlLuLlLuLlLuLlLuLl2Lu",
    "LlLuLlLuLlLuLlLuLlLuLlLuLlLuLlLuLlLuLlLuLlLuLlLuLlLuLlLuLlLuLlLuLlLuLlLuLlLuLlLuLlLuLlLuLl",
    "LuLlLuLlLuLlLuLlLuLlLuLlLuLlLuLlLuLlLuLlLuLlLuLlLuLlLuLlLuLlLuLlLuLlLuLlLuLlLuLlLuLlLuLlLu",
    "LlLuLlLuLlCnLu38Cn2LmPo6Ll41PoPdCn2So2ScCnMn45PdMnPoMn2PoMn2PoMnCn8Lo27Cn4Lo4Po2Cn11Cf6Sm3",
    "Po2ScPo2So2Mn11PoCfPo3Lo32LmLo10Mn21Nd10Po4Lo2MnLo99PoLoMn7CfSoMn6Lm2Mn2SoMn4Lo2Nd10Lo3So2",
    "LoPo14CnCfLoMnLo30Mn27Cn2Lo89Mn11LoCn14Nd10Lo33Mn9Lm2SoPo3LmCn2MnSc2Lo22Mn4LmMn9LmMn3LmMn5",
    "Cn2Po15CnLo25Mn3Cn2PoCnLo11Cn5Lo24SkLo6CnCf2Cn5Mn9Lo41LmMn24CfMn32McLo54MnMcMnLoMc3Mn8Mc4",
    "MnMc2LoMn7Lo10Mn2Po2Nd10PoLmLo15MnMc2CnLo8Cn2Lo2Cn2Lo22CnLo7CnLoCn3Lo4Cn2MnLoMc3Mn4Cn2Mc2",
    "Cn2Mc2MnLoCn8McCn4Lo2CnLo3Mn2Cn2Nd10Lo2Sc2No6SoScLoPoMnCn2Mn2McCnLo6Cn4Lo2Cn2Lo22CnLo7Cn",
    "Lo2CnLo2CnLo2Cn2MnCnMc3Mn2Cn4Mn2Cn2Mn3Cn3MnCn7Lo4CnLoCn7Nd10Mn2Lo3MnPoCn10Mn2McCnLo9CnLo3",
    "CnLo22CnLo7CnLo2CnLo5Cn2MnLoMc3Mn5CnMn2McCnMc2MnCn2LoCn15Lo2Mn2Cn2Nd10PoScCn7LoMn6CnMnMc2",
    "CnLo8Cn2Lo2Cn2Lo22CnLo7CnLo2CnLo5Cn2MnLoMcMnMcMn4Cn2Mc2Cn2Mc2MnCn7Mn2McCn4Lo2CnLo3Mn2Cn2",
    "Nd10SoLoNo6Cn10MnLoCnLo6Cn3Lo3CnLo4Cn3Lo2CnLoCnLo2Cn3Lo2Cn3Lo3Cn3Lo12Cn4Mc2MnMc2Cn3Mc3Cn",
    "Mc3MnCn2LoCn6McCn14Nd10No3So6ScSoCn5MnMc3MnLo8CnLo3CnLo23CnLo16Cn2MnLoMn3Mc4CnMn3CnMn4Cn7",
    "Mn2CnLo3Cn2LoCn2Lo2Mn2Cn2Nd10Cn7PoNo7SoLoMnMc2PoLo8CnLo3CnLo23CnLo10CnLo5Cn2MnLoMcMnMc5Cn",
    "MnMc2CnMc2Mn2Cn7Mc2Cn6Lo2CnLo2Mn2Cn2Nd10CnLo2McCn12Mn2Mc2Lo9CnLo3CnLo41Mn2LoMc3Mn4CnMc3Cn",
    "Mc3MnLoSoCn4Lo3McNo7Lo3Mn2Cn2Nd10No9SoLo6CnMnMc2CnLo18Cn3Lo24CnLo9CnLoCn2Lo7Cn3MnCn4Mc3Mn3",
    "CnMnCnMc8Cn6Nd10Cn2Mc2PoCn12Lo48MnLo2Mn7Cn4ScLo6LmMn8PoNd10Po2Cn37Lo2CnLoCnLo5CnLo24CnLoCn",
    "Lo10MnLo2Mn9LoCn2Lo5CnLmCnMn7CnNd10Cn2Lo4Cn32LoSo3Po15SoPoSo3Mn2So6Nd10No10SoMnSoMnSoMnPs",
    "PePsPeMc2Lo8CnLo36Cn4Mn14McMn5PoMn2Lo5Mn11CnMn36CnSo8MnSo6CnSo2Po5So4Po2Cn37Lo43Mc2Mn4Mc",
    "Mn6McMn2Mc2Mn2LoNd10Po6Lo6Mc2Mn2Lo4Mn3LoMc3Lo2Mc7Lo3Mn4Lo13MnMc2Mn2Mc6MnLoMcNd10Mc3MnSo2",
    "Lu38CnLuCn5LuCn2Ll43PoLmLl3Lo329CnLo4Cn2Lo7CnLoCnLo4Cn2Lo41CnLo4Cn2Lo33CnLo4Cn2Lo7CnLoCn",
    "Lo4Cn2Lo15CnLo57CnLo4Cn2Lo67Cn2Mn3Po9No20Cn3Lo16So10Cn6Lu86Cn2Ll6Cn2PdLo620SoPoLo17ZsLo26",
    "PsPeCn3Lo75Po3Nl3Lo8Cn7Lo18Mn3McCn9Lo19Mn2McPo2Cn9Lo18Mn2Cn12Lo13CnLo3CnMn2Cn12Lo52Mn2Mc",
    "Mn7Mc8MnMc2Mn11Po3LmPo3ScLoMnCn2Nd10Cn6No10Cn6Po6PdPo4Mn3CfMnNd10Cn6Lo35LmLo53Cn7Lo5Mn2",
    "Lo34MnLoCn5Lo70Cn10Lo31CnMn3Mc4Mn2Mc3Cn4Mc2MnMc6Mn3Cn4SoCn3Po2Nd10Lo30Cn2Lo5Cn11Lo44Cn4",
    "Lo26Cn6Nd10NoCn3So34Lo23Mn2Mc2MnCn2Po2Lo53McMnMcMn7CnMnMcMnMc2Mn8Mc6Mn10Cn2MnNd10Cn6Nd10",
    "Cn6Po7LmPo6Cn2Mn14MeMn16Cn49Mn4McLo47MnMcMn5McMnMc5MnMc2Lo8CnPo2Nd10Po7So10Mn9So9Po3Mn2Mc",
    "Lo30McMn4Mc2Mn2McMn3Lo2Nd10Lo44MnMcMn2Mc3MnMcMn3Mc2Cn8Po4Lo36Mc8Mn8Mc2Mn2Cn3Po5Nd10Cn3Lo3",
    "Nd10Lo30Lm6Po2Ll9LuLlCn5Lu43Cn2Lu3Po8Cn8Mn3PoMn13McMn7Lo4MnLo6MnLo2McMn2LoCn5Ll44Lm63Ll13",
    "LmLl34Lm37Mn64LuLlLuLlLuLlLuLlLuLlLuLlLuLlLuLlLuLlLuLlLuLlLuLlLuLlLuLlLuLlLuLlLuLlLuLlLuLl",
    "LuLlLuLlLuLlLuLlLuLlLuLlLuLlLuLlLuLlLuLlLuLlLuLlLuLlLuLlLuLlLuLlLuLlLuLlLuLlLuLlLuLlLuLlLu",
    "LlLuLlLuLlLuLlLuLlLuLlLuLlLuLlLuLlLuLlLuLlLuLlLuLlLuLlLuLlLuLlLuLlLuLlLuLlLuLlLuLlLuLlLuLl",
    "LuLlLuLlLuLlLuLlLuLlLuLlLuLlLuLlLuLlLuLlLuLl9LuLlLuLlLuLlLuLlLuLlLuLlLuLlLuLlLuLlLuLlLuLl",
    "LuLlLuLlLuLlLuLlLuLlLuLlLuLlLuLlLuLlLuLlLuLlLuLlLuLlLuLlLuLlLuLlLuLlLuLlLuLlLuLlLuLlLuLlLu",
    "LlLuLlLuLlLuLlLuLlLuLlLuLlLuLlLuLlLuLlLuLlLuLlLuLlLuLlLuLlLuLl9Lu8Ll6Cn2Lu6Cn2Ll8Lu8Ll8Lu8",
    "Ll6Cn2Lu6Cn2Ll8CnLuCnLuCnLuCnLuLl8Lu8Ll14Cn2Ll8Lt8Ll8Lt8Ll8Lt8Ll5CnLl2Lu4LtSkLlSk3Ll3CnLl2",
    "Lu4LtSk3Ll4Cn2Ll2Lu4CnSk3Ll8Lu5Sk3Cn2Ll3CnLl2Lu4LtSk2CnZs11Cf5Pd6Po2PiPfPsPi2PfPsPiPo8ZlZp",
    "Cf5ZsPo9PiPfPo4Pc2Po3SmPsPePo11SmPoPcPo10ZsCf5CnCf10NoLmCn2No6Sm3PsPeLmNo10Sm3PsPeCnLm13",
    "Cn3Sc33Cn15Mn13Me4MnMe3Mn12Cn15So2LuSo4LuSo2LlLu3Ll2Lu3LlSoLuSo2SmLu5So6LuSoLuSoLuSoLu4So",
    "LlLu4LlLo4LlSo2Ll2Lu2Sm5LuLl4SoSmSo2LlSoNo16Nl35LuLlNl4NoSo2Cn4Sm5So5Sm2So4SmSo2SmSo2SmSo7",
    "SmSo31Sm2So2SmSoSmSo31Sm268So8PsPePsPeSo20Sm2So7PsPeSo81SmSo30Sm25So40Sm6So72Cn22So11Cn21",
    "No60So78No22So183SmSo9SmSo54Sm8So111SmSo248PsPePsPePsPePsPePsPePsPePsPeNo30So44Sm5PsPeSm31",
    "PsPePsPePsPePsPePsPeSm16So256Sm131PsPePsPePsPePsPePsPePsPePsPePsPePsPePsPePsPeSm63PsPePsPe",
    "Sm32PsPeSm258So48Sm21So2Sm6So39Cn2So32CnSo105Lu48Ll48LuLlLu3Ll2LuLlLuLlLuLlLu4LlLuLl2LuLl6",
    "Lm2Lu3LlLuLlLuLlLuLlLuLlLuLlLuLlLuLlLuLlLuLlLuLlLuLlLuLlLuLlLuLlLuLlLuLlLuLlLuLlLuLlLuLlLu",
    "LlLuLlLuLlLuLlLuLlLuLlLuLlLuLlLuLlLuLlLuLlLuLlLuLlLuLlLuLlLuLlLuLlLuLlLuLlLuLlLuLlLuLlLuLl",
    "LuLlLuLlLuLlLuLlLuLlLuLl2So6LuLlLuLlMn3LuLlCn5Po4NoPo2Ll38CnLlCn5LlCn2Lo56Cn7LmPoCn14Mn",
    "Lo23Cn9Lo7CnLo7CnLo7CnLo7CnLo7CnLo7CnLo7CnLo7CnMn32Po2PiPfPiPfPo3PiPfPoPiPfPo9PdPo2PdPoPi",
    "PfPo2PiPfPsPePsPePsPePsPePo5LmPo10Pd2Po4PdPoPsPo13So2Po3PsPePsPePsPePsPePdCn34So26CnSo89",
    "Cn12So214Cn26So16ZsPo3SoLmLoNlPsPePsPePsPePsPePsPeSo2PsPePsPePsPePsPePdPsPe2SoNl9Mn4Mc2Pd",
    "Lm5So2Nl3LmLoPoSo2CnLo86Cn2Mn2Sk2Lm2LoPdLo90PoLm3LoCn5Lo43CnLo94CnSo2No4So10Lo32So38Cn9So",
    "Lo16So31CnNo10So30No8SoNo15So32No10So39No15So320Lo6592So64Lo21013LmLo1143Cn3So55Cn9Lo40Lm6",
    "Po2Lo268LmPo3Lo16Nd10Lo2Cn20LuLlLuLlLuLlLuLlLuLlLuLlLuLlLuLlLuLlLuLlLuLlLuLlLuLlLuLlLuLlLu",
    "LlLuLlLuLlLuLlLuLlLuLlLuLlLuLlLoMnMe3PoMn10PoLmLuLlLuLlLuLlLuLlLuLlLuLlLuLlLuLlLuLlLuLlLu",
    "LlLuLlLuLlLuLlLm2Mn2Lo70Nl10Mn2Po6Cn8Sk23Lm9Sk2LuLlLuLlLuLlLuLlLuLlLuLlLuLl3LuLlLuLlLuLlLu",
    "LlLuLlLuLlLuLlLuLlLuLlLuLlLuLlLuLlLuLlLuLlLuLlLuLlLuLlLuLlLuLlLuLlLuLlLuLlLuLlLuLlLuLlLuLl",
    "LuLlLuLlLuLlLuLlLuLlLmLl8LuLlLuLlLu2LlLuLlLuLlLuLlLuLlLmSk2LuLlLuLlLoLuLlLuLl3LuLlLuLlLuLl",
    "LuLlLuLlLuLlLuLlLuLlLuLlLuLlLu5LlLu5LlLuLlLuLlLuLlLuLlLuLlLuLlLuLlLu4LlLuLlLu2LlCn2LuLlCn",
    "LlCnLlLuLlLuLlLuLlLuCn21Lm3LuLlLoLm2LlLo7MnLo3MnLo4MnLo23Mc2Mn2McSo4MnCn3No6So2ScSoCn6Lo52",
    "Po4Cn8Mc2Lo50Mc16Mn2Cn8Po2Nd10Cn6Mn18Lo6Po3LoPoLo2MnNd10Lo28Mn8Po2Lo23Mn11Mc2Cn11PoLo29Cn3",
    "Mn3McLo47MnMc2Mn4Mc2Mn2Mc3Po13CnLmNd10Cn4Po2Lo5MnLmLo9Nd10Lo5CnLo41Mn6Mc2Mn2Mc2Mn2Cn9Lo3Mn",
    "Lo8MnMcCn2Nd10Cn2Po4Lo16LmLo6So3LoMcMnMcLo50MnLoMn3Lo2Mn2Lo5Mn2LoMnLoCn24Lo2LmPo2Lo11McMn2",
    "Mc2Po2LoLm2McMnCn10Lo6Cn2Lo6Cn2Lo6Cn9Lo7CnLo7CnLl43SkLm4Ll9LmSk2Cn4Ll80Lo35Mc2MnMc2MnMc2Po",
    "McMnCn2Nd10Cn6Lo11172Cn12Lo23Cn4Lo49Cn4Cs2048Co6400Lo366Cn2Lo106Cn38Ll7Cn12Ll5Cn5LoMnLo10",
    "SmLo13CnLo5CnLoCnLo2CnLo2CnLo108Sk17Cn16Lo363PePsSo16Lo64Cn2Lo54Cn7SoCn32Lo12ScSo3Mn16Po7",
    "PsPePoCn6Mn16PoPd2Pc2PsPePsPePsPePsPePsPePsPePsPePsPePo2PsPePo4Pc3Po3CnPo4PdPsPePsPePsPe",
    "Po3SmPdSm3CnPoScPo2Cn4Lo5CnLo135Cn2CfCnPo3ScPo3PsPePoSmPoPdPo2Nd10Po2Sm3Po2Lu26PsPoPeSkPc",
    "SkLl26PsSmPeSmPsPePoPsPePo2Lo10LmLo45Lm2Lo31Cn3Lo6Cn2Lo6Cn2Lo6Cn2Lo3Cn3Sc2SmSkSoSc2CnSoSm4",
    "So2Cn10Cf3So2Cn2Lo12CnLo26CnLo19CnLo2CnLo15Cn2Lo14Cn34Lo123Cn5Po3Cn4No45Cn3So9Nl53No4So17",
    "No2So3CnSo13Cn3SoCn47So45MnCn130Lo29Cn3Lo49Cn15MnNo27Cn4Lo32No4Cn9Lo20NlLo8NlCn5Lo38Mn5Cn5",
    "Lo30CnPoLo36Cn4Lo8PoNl5Cn42Lu40Ll40Lo78Cn2Nd10Cn6Lu36Cn4Ll36Cn4Lo40Cn8Lo52Cn11PoLu11CnLu15",
    "CnLu7CnLu2CnLl11CnLl15CnLl7CnLl2Cn3Lo52Cn12Lo311Cn9Lo22Cn10Lo8Cn24Lm6CnLm42CnLm9Cn69Lo6Cn2",
    "LoCnLo44CnLo2Cn3LoCn2Lo23CnPoNo8Lo23So2No7Lo31Cn8No9Cn48Lo19CnLo2Cn5No5Lo22No6Cn3PoLo26Cn5",
    "PoCn64Lo56Cn4No2Lo2No16Cn2No46LoMn3CnMn2Cn5Mn4Lo4CnLo3CnLo29Cn2Mn3Cn4MnNo9Cn7Po9Cn7Lo29No2",
    "PoLo29No3Cn32Lo8SoLo28Mn2Cn4No5Po7Cn9Lo54Cn3Po7Lo22Cn2No8Lo19Cn5No8Lo18Cn7Po4Cn12No7Cn80",
    "Lo73Cn55Lu51Cn13Ll51Cn7No6Lo36Mn4Cn8Nd10Cn6Nd10Lo4LmLoLu22Cn3Mn5PdLmLl22Cn8Sm2Cn208No31Cn",
    "Lo42CnMn2PdCn2Lo2Cn16Lo3Cn55Mn4Lo29No10LoCn8Lo22Mn11No4Po5Cn22Lo18Mn4Po4Cn38Lo21No7Cn20",
    "Lo23Cn9McMnMcLo53Mn15Po7Cn4No20Nd10MnLo2Mn2LoCn9Mn3McLo45Mc3Mn4Mc2Mn2Po2CfPo4MnCn10CfCn2",
    "Lo25Cn7Nd10Cn6Mn3Lo36Mn5McMn8CnNd10Po4LoMc2LoCn8Lo35MnPo2LoCn9Mn2McLo48Mc3Mn9Mc2Lo4Po4Mn4",
    "PoMcMnNd10LoPoLoPo3CnNo20Cn11Lo18CnLo25Mc3Mn3Mc2MnMcMn2Po6MnLo2MnCn62Lo7CnLoCnLo4CnLo15Cn",
    "Lo10PoCn6Lo47MnMc3Mn8Cn5Nd10Cn6Mn2Mc2CnLo8Cn2Lo2Cn2Lo22CnLo7CnLo2CnLo5CnMn2LoMc2MnMc4Cn2",
    "Mc2Cn2Mc3Cn2LoCn6McCn5Lo5Mc2Cn2Mn7Cn3Mn5Cn11Lo10CnLoCn2LoCnLo38CnLoMc3Mn6CnMcCn2McCnMc4Cn",
    "Mc2MnMcMnLoMnLoPo2CnPo2Cn8Mn2Cn29Lo53Mc3Mn8Mc2Mn3McMnLo4Po5Nd10Po2CnPoMnLo3Cn30Lo48Mc3Mn6",
    "McMnMc4Mn2McMn2Lo2PoLoCn8Nd10Cn166Lo47Mc3Mn4Cn2Mc4Mn2McMn2Po23Lo4Mn2Cn34Lo48Mc3Mn8Mc2MnMc",
    "Mn2Po3LoCn11Nd10Cn6Po13Cn19Lo43MnMcMnMc2Mn6McMnLoPoCn6Nd10Cn6Nd20Cn28Lo27Cn2MnMcMnMc2Mn4Mc",
    "Mn5Cn4Nd10No2Po3SoLo7Cn185Lo44Mc3Mn9McMn2PoCn100Lu32Ll32Nd10No9Cn12Lo8Cn2LoCn2Lo8CnLo2Cn",
    "Lo24Mc6CnMc2Cn2Mn2McMnLoMcLoMcMnPo3Cn9Nd10Cn70Lo8Cn2Lo39Mc3Mn4Cn2Mn2Mc4MnLoPoLoMcCn27Lo",
    "Mn10Lo40Mn6McLoMn4Po8MnCn8LoMn6Mc2Mn3Lo46Mn13McMn2Po3LoPo5Cn13Lo73Cn7Po10Cn182Lo33PoCn14",
    "Nd10Cn6Lo9CnLo37McMn7CnMn6McMnLoPo5Cn10Nd10No19Cn3Po2Lo30Cn2Mn22CnMcMn7McMn2McMn2Cn73Lo7Cn",
    "Lo2CnLo38Mn6Cn3MnCnMn2CnMn7LoMnCn8Nd10Cn6Lo6CnLo2CnLo32Mc5CnMn2CnMc2MnMcMnLoCn7Nd10Cn310",
    "Lo19Mn2Mc2Po2Cn7Mn2LoMcLo13CnLo34Mc2Mn5Cn3Mc2MnMcMnPo13Nd10MnCn85LoCn15No21So8Sc4So17Cn13",
    "PoLo922Cn102Nl111CnPo5Cn11Lo196Cn2636Lo97Po2Cn13Lo1072Cf16MnLo6Mn15Cn10Lo3995Cn5Lo583",
    "Cn6841Lo30Mn12Mc3Mn3Nd10Cn1734Lo569Cn7Lo31CnNd10Cn4Po2Lo79CnNd10Cn6Lo30Cn2Mn5PoCn10Lo48Mn7",
    "Po5So4Lm4PoSoCn10Nd10CnNo7CnLo21Cn5Lo19Cn432Lm3Lo40Lm2Po3Nd10Cn198Lu32Ll32No23Po4Cn101Lo75",
    "Cn4MnLoMc55Cn7Mn4Lm13Cn64Lm2PoLmMnCn11Mc2Cn14Lo6136Cn8Lo1238Cn41Lo10Cn8935Lm4CnLm7CnLm2Cn",
    "Lo291Cn15LoCn29Lo3Cn2LoCn14Lo4Cn8Lo396Cn2308Lo107Cn5Lo13Cn3Lo9Cn7Lo10Cn2SoMn2PoCf4Cn3932",
    "So240Nd10Cn6So436Cn76Mn46Cn2Mn23Cn9So116Cn60So246Cn10So39Cn2So60Mc2Mn3So3Mc6Cf8Mn8So2Mn7",
    "So30Mn4So61Cn21So66Mn3SoCn122No20Cn12No20Cn12So87Cn9No25Cn135Lu26Ll26Lu26Ll7CnLl18Lu26Ll26",
    "LuCnLu2Cn2LuCn2Lu2Cn2Lu4CnLu8Ll4CnLlCnLl7CnLl11Lu26Ll26Lu2CnLu4Cn2Lu8CnLu7CnLl26Lu2CnLu4Cn",
    "Lu5CnLuCn3Lu7CnLl26Lu26Ll26Lu26Ll26Lu26Ll26Lu26Ll26Lu26Ll26Lu26Ll28Cn2Lu25SmLl25SmLl6Lu25",
    "SmLl25SmLl6Lu25SmLl25SmLl6Lu25SmLl25SmLl6Lu25SmLl25SmLl6LuLlCn2Nd50So512Mn55So4Mn50So8Mn",
    "So14MnSo2Po5Cn15Mn5CnMn15Cn1104Ll10LoLl20Cn6Ll6Cn213Mn7CnMn17Cn2Mn7CnMn2CnMn5Cn5Lm62Cn33Mn",
    "Cn112Lo45Cn3Mn7Lm7Cn2Nd10Cn4LoSoCn320Lo30MnCn17Lo44Mn4Nd10Cn5ScCn464Lo27LmMn4Nd10Cn214Lo30",
    "Mn2LoNd10Cn4PoCn480Lo7CnLo4CnLo2CnLo15CnLo197Cn2No9Mn7Cn41Lu34Ll34Mn7LmCn4Nd10Cn4Po2Cn785",
    "No59SoNo3ScNo4Cn76No45SoNo15Cn194Lo4CnLo27CnLo2CnLoCn2LoCnLo10CnLo4CnLoCnLoCn6LoCn4LoCnLo",
    "CnLoCnLo3CnLo2CnLoCn2LoCnLoCnLoCnLoCnLoCnLo2CnLoCn2Lo4CnLo7CnLo4CnLo4CnLoCnLo10CnLo17Cn5",
    "Lo3CnLo5CnLo17Cn52Sm2Cn270So44Cn4So100Cn12So15Cn2So15CnSo15CnSo37Cn10No13So161Cn56So29Cn13",
    "So44Cn4So9Cn7So2Cn14So6Cn154So251Sk5So728Cn4So17Cn3So13Cn3So119Cn4So95Cn6So12Cn4SoCn15So12",
    "Cn4So56Cn8So10Cn6So40Cn8So30Cn2So12Cn4So2Cn62So340Cn12So14Cn2So13Cn3So10Cn5So56Cn7So15Cn2",
    "So11Cn6So9Cn7So147CnSo92Nd10Cn1030Lo42720Cn32Lo4154Cn6Lo222Cn2Lo5762Cn14Lo7473Cn15Lo622",
    "Cn2466Lo542Cn1506Lo4939Cn5Lo4192Cn711761CfCn30Cf96Cn128Mn240Cn65040Co65534Cn2Co65534Cn2"]

/-- The scripts. -/
def scriptRuns : String :=
  String.join [
    "Zyyy65Latn26Zyyy6Latn26Zyyy47LatnZyyy15LatnZyyy5Latn23ZyyyLatn31ZyyyLatn449Zyyy39Latn5",
    "Zyyy5Bopo2Zyyy20Zinh112Grek4ZyyyGrek3Zzzz2Grek4ZyyyGrekZzzz4GrekZyyyGrekZyyyGrek3ZzzzGrek",
    "ZzzzGrek20ZzzzGrek63Copt14Grek16Cyrl133Zinh2Cyrl169ZzzzArmn38Zzzz2Armn50Zzzz2Armn3Zzzz",
    "Hebr55Zzzz8Hebr27Zzzz4Hebr6Zzzz11Arab5ZyyyArab6ZyyyArab14ZyyyArab3ZyyyArab32ZyyyArab10",
    "Zinh11Arab26ZinhArab108ZyyyArab34Syrc14ZzzzSyrc60Zzzz2Syrc3Arab48Thaa50Zzzz14Nkoo59Zzzz2",
    "Nkoo3Samr46Zzzz2Samr15ZzzzMand28Zzzz2MandZzzzSyrc11Zzzz5Arab31ZzzzArab2Zzzz5Arab75Zyyy",
    "Arab29Deva81Zinh4Deva15Zyyy2Deva26Beng4ZzzzBeng8Zzzz2Beng2Zzzz2Beng22ZzzzBeng7ZzzzBeng",
    "Zzzz3Beng4Zzzz2Beng9Zzzz2Beng2Zzzz2Beng4Zzzz8BengZzzz4Beng2ZzzzBeng5Zzzz2Beng25Zzzz2Guru3",
    "ZzzzGuru6Zzzz4Guru2Zzzz2Guru22ZzzzGuru7ZzzzGuru2ZzzzGuru2ZzzzGuru2Zzzz2GuruZzzzGuru5Zzzz4",
    "Guru2Zzzz2Guru3Zzzz3GuruZzzz7Guru4ZzzzGuruZzzz7Guru17Zzzz10Gujr3ZzzzGujr9ZzzzGujr3Zzzz",
    "Gujr22ZzzzGujr7ZzzzGujr2ZzzzGujr5Zzzz2Gujr10ZzzzGujr3ZzzzGujr3Zzzz2GujrZzzz15Gujr4Zzzz2",
    "Gujr12Zzzz7Gujr7ZzzzOrya3ZzzzOrya8Zzzz2Orya2Zzzz2Orya22ZzzzOrya7ZzzzOrya2ZzzzOrya5Zzzz2",
    "Orya9Zzzz2Orya2Zzzz2Orya3Zzzz7Orya3Zzzz4Orya2ZzzzOrya5Zzzz2Orya18Zzzz10Taml2ZzzzTaml6Zzzz3",
    "Taml3ZzzzTaml4Zzzz3Taml2ZzzzTamlZzzzTaml2Zzzz3Taml2Zzzz3Taml3Zzzz3Taml12Zzzz4Taml5Zzzz3",
    "Taml3ZzzzTaml4Zzzz2TamlZzzz6TamlZzzz14Taml21Zzzz5Telu13ZzzzTelu3ZzzzTelu23ZzzzTelu16Zzzz2",
    "Telu9ZzzzTelu3ZzzzTelu4Zzzz7Telu2ZzzzTelu3Zzzz2TeluZzzz2Telu4Zzzz2Telu10Zzzz7Telu9Knda13",
    "ZzzzKnda3ZzzzKnda23ZzzzKnda10ZzzzKnda5Zzzz2Knda9ZzzzKnda3ZzzzKnda4Zzzz7Knda2Zzzz6Knda2Zzzz",
    "Knda4Zzzz2Knda10ZzzzKnda3Zzzz12Mlym13ZzzzMlym3ZzzzMlym51ZzzzMlym3ZzzzMlym6Zzzz4Mlym16Zzzz2",
    "Mlym26ZzzzSinh3ZzzzSinh18Zzzz3Sinh24ZzzzSinh9ZzzzSinhZzzz2Sinh7Zzzz3SinhZzzz4Sinh6ZzzzSinh",
    "ZzzzSinh8Zzzz6Sinh10Zzzz2Sinh3Zzzz12Thai58Zzzz4ZyyyThai28Zzzz37Laoo2ZzzzLaooZzzzLaoo5Zzzz",
    "Laoo24ZzzzLaooZzzzLaoo23Zzzz2Laoo5ZzzzLaooZzzzLaoo7ZzzzLaoo10Zzzz2Laoo4Zzzz32Tibt72Zzzz",
    "Tibt36Zzzz4Tibt39ZzzzTibt36ZzzzTibt15ZzzzTibt7Zyyy4Tibt2Zzzz37Mymr160Geor38ZzzzGeorZzzz5",
    "GeorZzzz2Geor43ZyyyGeor4Hang256Ethi73ZzzzEthi4Zzzz2Ethi7ZzzzEthiZzzzEthi4Zzzz2Ethi41Zzzz",
    "Ethi4Zzzz2Ethi33ZzzzEthi4Zzzz2Ethi7ZzzzEthiZzzzEthi4Zzzz2Ethi15ZzzzEthi57ZzzzEthi4Zzzz2",
    "Ethi67Zzzz2Ethi32Zzzz3Ethi26Zzzz6Cher86Zzzz2Cher6Zzzz2Cans640Ogam29Zzzz3Runr75Zyyy3Runr11",
    "Zzzz7Tglg22Zzzz9TglgHano21Zyyy2Zzzz9Buhd20Zzzz12Tagb13ZzzzTagb3ZzzzTagb2Zzzz12Khmr94Zzzz2",
    "Khmr10Zzzz6Khmr10Zzzz6Mong2Zyyy2MongZyyyMong20Zzzz6Mong89Zzzz7Mong43Zzzz5Cans70Zzzz10",
    "Limb31ZzzzLimb12Zzzz4Limb12Zzzz4LimbZzzz3Limb12Tale30Zzzz2Tale5Zzzz11Talu44Zzzz4Talu26",
    "Zzzz6Talu11Zzzz3Talu2Khmr32Bugi28Zzzz2Bugi2Lana63ZzzzLana29Zzzz2Lana11Zzzz6Lana10Zzzz6",
    "Lana14Zzzz2Zinh31Zzzz49Bali77ZzzzBali50Sund64Batk52Zzzz8Batk4Lepc56Zzzz3Lepc15Zzzz3Lepc3",
    "Olck48Cyrl11Zzzz5Geor43Zzzz2Geor3Sund8Zzzz8Zinh3ZyyyZinh13ZyyyZinh7Zyyy4ZinhZyyy6ZinhZyyy3",
    "Zinh2ZyyyZzzz5Latn38Grek5CyrlLatn49Grek5Latn4Grek5Latn13CyrlLatn70GrekZinh64Latn256Grek22",
    "Zzzz2Grek6Zzzz2Grek38Zzzz2Grek6Zzzz2Grek8ZzzzGrekZzzzGrekZzzzGrekZzzzGrek31Zzzz2Grek53Zzzz",
    "Grek15ZzzzGrek14Zzzz2Grek6ZzzzGrek19Zzzz2Grek3ZzzzGrek9ZzzzZyyy12Zinh2Zyyy87ZzzzZyyy11Latn",
    "Zzzz2Zyyy11LatnZyyy15ZzzzLatn13Zzzz3Zyyy33Zzzz15Zinh33Zzzz15Zyyy38GrekZyyy3Latn2Zyyy6Latn",
    "Zyyy27LatnZyyy17Latn41Zyyy3Zzzz4Zyyy666Zzzz22Zyyy11Zzzz21Zyyy928Brai256Zyyy628Zzzz2Zyyy32",
    "ZzzzZyyy105Glag96Latn32Copt116Zzzz5Copt7Geor38ZzzzGeorZzzz5GeorZzzz2Tfng56Zzzz7Tfng2Zzzz14",
    "TfngEthi23Zzzz9Ethi7ZzzzEthi7ZzzzEthi7ZzzzEthi7ZzzzEthi7ZzzzEthi7ZzzzEthi7ZzzzEthi7Zzzz",
    "Cyrl32Zyyy94Zzzz34Hani26ZzzzHani89Zzzz12Hani214Zzzz26Zyyy21HaniZyyyHaniZyyy25Hani9Zinh4",
    "Hang2Zyyy8Hani4Zyyy4ZzzzHira86Zzzz2Zinh2Zyyy2Hira3ZyyyKana90Zyyy2Kana3Zzzz5Bopo43Zzzz",
    "Hang94ZzzzZyyy16Bopo32Zyyy38Zzzz9ZyyyKana16Hang31ZzzzZyyy64Hang31Zyyy81Kana47ZyyyKana88",
    "Zyyy168Hani6592Zyyy64Hani20992Yiii1165Zzzz3Yiii55Zzzz9Lisu48Vaii300Zzzz20Cyrl96Bamu88Zzzz8",
    "Zyyy34Latn102Zyyy3Latn67Zzzz2Latn2ZzzzLatnZzzzLatn8Zzzz21Latn14Sylo45Zzzz3Zyyy10Zzzz6",
    "Phag56Zzzz8Saur70Zzzz8Saur12Zzzz6Deva32Kali46ZyyyKaliRjng36Zzzz11RjngHang29Zzzz3Java78Zzzz",
    "ZyyyJava10Zzzz4Java2Mymr31ZzzzCham55Zzzz9Cham14Zzzz2Cham10Zzzz2Cham4Mymr32Tavt67Zzzz24",
    "Tavt5Mtei23Zzzz10Ethi6Zzzz2Ethi6Zzzz2Ethi6Zzzz9Ethi7ZzzzEthi7ZzzzLatn43ZyyyLatn9GrekLatn4",
    "Zyyy2Zzzz4Cher80Mtei46Zzzz2Mtei10Zzzz6Hang11172Zzzz12Hang23Zzzz4Hang49Zzzz8452Hani366Zzzz2",
    "Hani106Zzzz38Latn7Zzzz12Armn5Zzzz5Hebr26ZzzzHebr5ZzzzHebrZzzzHebr2ZzzzHebr2ZzzzHebr10",
    "Arab115Zzzz16Arab363Zyyy2Arab80Zzzz2Arab54Zzzz7ArabZzzz32Arab16Zinh16Zyyy10Zzzz6Zinh14",
    "Cyrl2Zyyy35ZzzzZyyy19ZzzzZyyy4Zzzz4Arab5ZzzzArab135Zzzz2ZyyyZzzzZyyy32Latn26Zyyy6Latn26",
    "Zyyy11Kana10ZyyyKana45Zyyy2Hang31Zzzz3Hang6Zzzz2Hang6Zzzz2Hang6Zzzz2Hang3Zzzz3Zyyy7Zzzz",
    "Zyyy7Zzzz10Zyyy5Zzzz2Linb12ZzzzLinb26ZzzzLinb19ZzzzLinb2ZzzzLinb15Zzzz2Linb14Zzzz34Linb123",
    "Zzzz5Zyyy3Zzzz4Zyyy45Zzzz3Zyyy9Grek79ZzzzZyyy13Zzzz3GrekZzzz47Zyyy45ZinhZzzz130Lyci29Zzzz3",
    "Cari49Zzzz15ZinhZyyy27Zzzz4Ital36Zzzz9Ital3Goth27Zzzz5Perm43Zzzz5Ugar30ZzzzUgarXpeo36Zzzz4",
    "Xpeo14Zzzz42Dsrt80Shaw48Osma30Zzzz2Osma10Zzzz6Osge36Zzzz4Osge36Zzzz4Elba40Zzzz8Aghb52",
    "Zzzz11AghbVith11ZzzzVith15ZzzzVith7ZzzzVith2ZzzzVith11ZzzzVith15ZzzzVith7ZzzzVith2Zzzz3",
    "Todr52Zzzz12Lina311Zzzz9Lina22Zzzz10Lina8Zzzz24Latn6ZzzzLatn42ZzzzLatn9Zzzz69Cprt6Zzzz2",
    "CprtZzzzCprt44ZzzzCprt2Zzzz3CprtZzzz2CprtArmi22ZzzzArmi9Palm32Nbat31Zzzz8Nbat9Zzzz48Hatr19",
    "ZzzzHatr2Zzzz5Hatr5Phnx28Zzzz3PhnxLydi26Zzzz5LydiZzzz64Mero32Merc24Zzzz4Merc20Zzzz2Merc46",
    "Khar4ZzzzKhar2Zzzz5Khar8ZzzzKhar3ZzzzKhar29Zzzz2Khar3Zzzz4Khar10Zzzz7Khar9Zzzz7Sarb32",
    "Narb32Zzzz32Mani39Zzzz4Mani12Zzzz9Avst54Zzzz3Avst7Prti22Zzzz2Prti8Phli19Zzzz5Phli8Phlp18",
    "Zzzz7Phlp4Zzzz12Phlp7Zzzz80Orkh73Zzzz55Hung51Zzzz13Hung51Zzzz7Hung6Rohg40Zzzz8Rohg10Zzzz6",
    "Gara38Zzzz3Gara29Zzzz8Gara2Zzzz208Arab31ZzzzYezi42ZzzzYezi3Zzzz2Yezi2Zzzz16Arab3Zzzz55",
    "Arab4Sogo40Zzzz8Sogd42Zzzz22Ougr26Zzzz38Chrs28Zzzz20Elym23Zzzz9Brah78Zzzz4Brah36Zzzz9Brah",
    "Kthi67Zzzz10KthiZzzz2Sora25Zzzz7Sora10Zzzz6Cakm53ZzzzCakm18Zzzz8Mahj39Zzzz9Shrd96Zzzz",
    "Sinh20Zzzz11Khoj18ZzzzKhoj47Zzzz62Mult7ZzzzMultZzzzMult4ZzzzMult15ZzzzMult11Zzzz6Sind59",
    "Zzzz5Sind10Zzzz6Gran4ZzzzGran8Zzzz2Gran2Zzzz2Gran22ZzzzGran7ZzzzGran2ZzzzGran5ZzzzZinh",
    "Gran9Zzzz2Gran2Zzzz2Gran3Zzzz2GranZzzz6GranZzzz5Gran7Zzzz2Gran7Zzzz3Gran5Zzzz11Tutg10Zzzz",
    "TutgZzzz2TutgZzzzTutg38ZzzzTutg10ZzzzTutgZzzz2TutgZzzzTutg4ZzzzTutg10ZzzzTutg2Zzzz8Tutg2",
    "Zzzz29Newa92ZzzzNewa5Zzzz30Tirh72Zzzz8Tirh10Zzzz166Sidd54Zzzz2Sidd38Zzzz34Modi69Zzzz11",
    "Modi10Zzzz6Mong13Zzzz19Takr58Zzzz6Takr10Zzzz6Mymr20Zzzz28Ahom27Zzzz2Ahom15Zzzz4Ahom23",
    "Zzzz185Dogr60Zzzz100Wara83Zzzz12WaraDiak7Zzzz2DiakZzzz2Diak8ZzzzDiak2ZzzzDiak30ZzzzDiak2",
    "Zzzz2Diak12Zzzz9Diak10Zzzz70Nand8Zzzz2Nand46Zzzz2Nand11Zzzz27Zanb72Zzzz8Soyo83Zzzz13Cans16",
    "Pauc57Zzzz7Deva10Zzzz182Sunu34Zzzz14Sunu10Zzzz6Bhks9ZzzzBhks45ZzzzBhks14Zzzz10Bhks29Zzzz3",
    "Marc32Zzzz2Marc22ZzzzMarc14Zzzz73Gonm7ZzzzGonm2ZzzzGonm44Zzzz3GonmZzzzGonm2ZzzzGonm9Zzzz8",
    "Gonm10Zzzz6Gong6ZzzzGong2ZzzzGong37ZzzzGong2ZzzzGong6Zzzz7Gong10Zzzz310Maka25Zzzz7Kawi17",
    "ZzzzKawi41Zzzz3Kawi29Zzzz85LisuZzzz15Taml50Zzzz13TamlXsux922Zzzz102Xsux111ZzzzXsux5Zzzz11",
    "Xsux196Zzzz2636Cpmn99Zzzz13Egyp1110Zzzz10Egyp3995Zzzz5Hluw583Zzzz6841Gukh58Zzzz1734Bamu569",
    "Zzzz7Mroo31ZzzzMroo10Zzzz4Mroo2Tnsa79ZzzzTnsa10Zzzz6Bass30Zzzz2Bass6Zzzz10Hmng70Zzzz10",
    "Hmng10ZzzzHmng7ZzzzHmng21Zzzz5Hmng19Zzzz432Krai58Zzzz198Medf91Zzzz101Plrd75Zzzz4Plrd57",
    "Zzzz7Plrd17Zzzz64TangNshuHani2KitsZzzz11Hani2Zzzz14Tang6136Zzzz8Tang768Kits470Zzzz41Kits",
    "Tang9Zzzz8935Kana4ZzzzKana7ZzzzKana2ZzzzKanaHira287Kana3Zzzz15HiraZzzz29Hira3Zzzz2Kana",
    "Zzzz14Kana4Zzzz8Nshu396Zzzz2308Dupl107Zzzz5Dupl13Zzzz3Dupl9Zzzz7Dupl10Zzzz2Dupl4Zyyy4",
    "Zzzz3932Zyyy250Zzzz6Zyyy436Zzzz76Zinh46Zzzz2Zinh23Zzzz9Zyyy116Zzzz60Zyyy246Zzzz10Zyyy39",
    "Zzzz2Zyyy62Zinh3Zyyy17Zinh8Zyyy2Zinh7Zyyy30Zinh4Zyyy61Zzzz21Grek70Zzzz122Zyyy20Zzzz12",
    "Zyyy20Zzzz12Zyyy87Zzzz9Zyyy25Zzzz135Zyyy85ZzzzZyyy71ZzzzZyyy2Zzzz2ZyyyZzzz2Zyyy2Zzzz2Zyyy4",
    "ZzzzZyyy12ZzzzZyyyZzzzZyyy7ZzzzZyyy65ZzzzZyyy4Zzzz2Zyyy8ZzzzZyyy7ZzzzZyyy28ZzzzZyyy4Zzzz",
    "Zyyy5ZzzzZyyyZzzz3Zyyy7ZzzzZyyy340Zzzz2Zyyy292Zzzz2Zyyy50Sgnw652Zzzz15Sgnw5ZzzzSgnw15",
    "Zzzz1104Latn31Zzzz6Latn6Zzzz213Glag7ZzzzGlag17Zzzz2Glag7ZzzzGlag2ZzzzGlag5Zzzz5Cyrl62",
    "Zzzz33CyrlZzzz112Hmnp45Zzzz3Hmnp14Zzzz2Hmnp10Zzzz4Hmnp2Zzzz320Toto31Zzzz17Wcho58Zzzz5Wcho",
    "Zzzz464Nagm42Zzzz214Onao43Zzzz4OnaoZzzz480Ethi7ZzzzEthi4ZzzzEthi2ZzzzEthi15ZzzzMend197",
    "Zzzz2Mend16Zzzz41Adlm76Zzzz4Adlm10Zzzz4Adlm2Zzzz785Zyyy68Zzzz76Zyyy61Zzzz194Arab4Zzzz",
    "Arab27ZzzzArab2ZzzzArabZzzz2ArabZzzzArab10ZzzzArab4ZzzzArabZzzzArabZzzz6ArabZzzz4ArabZzzz",
    "ArabZzzzArabZzzzArab3ZzzzArab2ZzzzArabZzzz2ArabZzzzArabZzzzArabZzzzArabZzzzArabZzzzArab2",
    "ZzzzArabZzzz2Arab4ZzzzArab7ZzzzArab4ZzzzArab4ZzzzArabZzzzArab10ZzzzArab17Zzzz5Arab3Zzzz",
    "Arab5ZzzzArab17Zzzz52Arab2Zzzz270Zyyy44Zzzz4Zyyy100Zzzz12Zyyy15Zzzz2Zyyy15ZzzzZyyy15Zzzz",
    "Zyyy37Zzzz10Zyyy174Zzzz56Zyyy26HiraZyyy2Zzzz13Zyyy44Zzzz4Zyyy9Zzzz7Zyyy2Zzzz14Zyyy6Zzzz154",
    "Zyyy984Zzzz4Zyyy17Zzzz3Zyyy13Zzzz3Zyyy119Zzzz4Zyyy95Zzzz6Zyyy12Zzzz4ZyyyZzzz15Zyyy12Zzzz4",
    "Zyyy56Zzzz8Zyyy10Zzzz6Zyyy40Zzzz8Zyyy30Zzzz2Zyyy12Zzzz4Zyyy2Zzzz62Zyyy340Zzzz12Zyyy14Zzzz2",
    "Zyyy13Zzzz3Zyyy10Zzzz5Zyyy56Zzzz7Zyyy15Zzzz2Zyyy11Zzzz6Zyyy9Zzzz7Zyyy147ZzzzZyyy102",
    "Zzzz1030Hani42720Zzzz32Hani4154Zzzz6Hani222Zzzz2Hani5762Zzzz14Hani7473Zzzz15Hani622",
    "Zzzz2466Hani542Zzzz1506Hani4939Zzzz5Hani4192Zzzz711761ZyyyZzzz30Zyyy96Zzzz128Zinh240",
    "Zzzz196112"]

/-- The scripts that share characters, with the characters they share. -/
def sharedScripts : List (String × String) :=
  [
    ("Avst Cari Copt Dupl Elba Geor Glag Gong Goth Grek Hani Latn Lydi Mahj Perm Shaw", "B7"),
    ("Beng Cyrl Deva Latn Lisu Thai Toto", "2BC"),
    ("Bopo Latn", "2C7 2C9-2CB 2D9"),
    ("Latn Lisu", "2CD"),
    ("Latn Thai", "2D7"),
    ("Cher Copt Cyrl Grek Latn Perm Sunu Tale", "300"),
    ("Cher Cyrl Grek Latn Osge Sunu Tale Todr", "301"),
    ("Cher Cyrl Latn Tfng", "302"),
    ("Glag Latn Sunu Syrc Thai", "303"),
    ("Aghb Cher Copt Cyrl Goth Grek Latn Osge Syrc Tfng Todr", "304"),
    ("Copt Elba Glag Goth Kana Latn", "305"),
    ("Cyrl Grek Latn Perm Tfng", "306"),
    ("Copt Dupl Hebr Latn Perm Syrc Tale Tfng Todr", "307"),
    ("Armn Cyrl Dupl Goth Grek Hebr Latn Perm Syrc Tale Tfng", "308"),
    ("Latn Tfng", "309"),
    ("Dupl Latn Syrc", "30A"),
    ("Cher Cyrl Latn Osge", "30B"),
    ("Cher Latn Tale", "30C"),
    ("Latn Sunu", "30D 310"),
    ("Ethi Latn", "30E"),
    ("Cyrl Latn Todr", "311"),
    ("Grek Latn Perm Todr", "313"),
    ("Cher Dupl Kana Latn Syrc Tfng", "323"),
    ("Cher Dupl Latn Syrc", "324"),
    ("Latn Syrc", "325 32E"),
    ("Latn Sunu Syrc", "32D"),
    ("Cher Latn Syrc", "330"),
    ("Aghb Cher Goth Latn Sunu Syrc Thai", "331"),
    ("Grek", "342 345 1DC0-1DC1"),
    ("Latn Osge", "358"),
    ("Aghb Latn Todr", "35E"),
    ("Latn", "363-36F"),
    ("Copt Grek", "374-375"),
    ("Cyrl Perm", "483"),
    ("Cyrl Glag", "484 487 2E43 A66F"),
    ("Cyrl Latn", "485-486"),
    ("Armn Geor Glag", "589"),
    ("Arab Gara Nkoo Rohg Syrc Thaa Yezi", "60C 61B"),
    ("Arab Syrc Thaa", "61C"),
    ("Adlm Arab Gara Nkoo Rohg Syrc Thaa Yezi", "61F"),
    ("Adlm Arab Mand Mani Ougr Phlp Rohg Sogd Syrc", "640"),
    ("Arab Syrc", "64B-655 670"),
    ("Arab Thaa Yezi", "660-669"),
    ("Arab Rohg", "6D4"),
    ("Beng Deva Gran Gujr Guru Knda Latn Mlym Nand Newa Orya Shrd Taml Telu Tirh", "951"),
    ("Beng Deva Gran Gujr Guru Knda Latn Mlym Newa Orya Taml Telu Tirh", "952"),
    (String.join ["Beng Deva Dogr Gong Gonm Gran Gujr Guru Knda Mahj Mlym Nand Onao Orya Sind Sinh ",
      "Sylo Takr Taml Telu Tirh"],
      "964"),
    (String.join ["Beng Deva Dogr Gong Gonm Gran Gujr Gukh Guru Knda Limb Mahj Mlym Nand Onao Orya ",
      "Sind Sinh Sylo Takr Taml Telu Tirh"],
      "965"),
    ("Deva Dogr Kthi Mahj", "966-96F"),
    ("Beng Cakm Sylo", "9E6-9EF"),
    ("Guru Mult", "A66-A6F"),
    ("Gujr Khoj", "AE6-AEF"),
    ("Gran Taml", "BE6-BF3 11301 11303 1133B-1133C 11FD0-11FD1 11FD3"),
    ("Knda Nand Tutg", "CE6-CEF"),
    ("Cakm Mymr Tale", "1040-1049"),
    ("Geor Glag Latn", "10FB"),
    ("Runr", "16EB-16ED"),
    ("Buhd Hano Tagb Tglg", "1735-1736"),
    ("Mong Phag", "1802-1803 1805"),
    ("Beng Deva Gran Knda", "1CD0 1CD2"),
    ("Deva", "1CD1 1CD4 1CDB 1CDE-1CDF 1CE3-1CE8 1CEC 1CEE-1CF1"),
    ("Deva Gran Knda", "1CD3"),
    ("Beng Deva Newa Telu Tirh", "1CD5"),
    ("Beng Deva Telu", "1CD6"),
    ("Deva Newa Shrd", "1CD7"),
    ("Beng Deva Newa Telu", "1CD8"),
    ("Deva Shrd", "1CD9 1CDC-1CDD 1CE0"),
    ("Deva Knda Mlym Orya Taml Telu", "1CDA"),
    ("Beng Deva", "1CE1 1CF5-1CF6"),
    ("Deva Newa Tirh", "1CE2"),
    ("Deva Nand Newa", "1CE9"),
    ("Beng Deva Shrd", "1CEA"),
    ("Deva Newa", "1CEB"),
    ("Beng Deva Newa Shrd", "1CED"),
    ("Beng Deva Gran Knda Mlym Nand Orya Sinh Telu Tirh Tutg", "1CF2"),
    ("Deva Gran", "1CF3 1CF8-1CF9"),
    ("Deva Gran Knda Tutg", "1CF4"),
    ("Beng", "1CF7"),
    ("Nand", "1CFA"),
    ("Cyrl Latn Syrc", "1DF8"),
    ("Syrc", "1DFA"),
    ("Latn Mong Phag", "202F"),
    ("Adlm Arab", "204F"),
    ("Cari Geor Glag Hung Lyci Orkh", "205A"),
    ("Cari Grek Hung Mero", "205D"),
    ("Deva Gran Latn", "20F0"),
    ("Copt Latn", "2E17"),
    ("Avst Orkh", "2E30"),
    ("Avst Cari Geor Hung Kthi Lydi Samr", "2E31"),
    ("Dupl", "2E3C 1BCA0-1BCA3"),
    ("Adlm Arab Hung", "2E41"),
    ("Hani Tang", "2FF0-2FFF 31EF"),
    ("Bopo Hang Hani Hira Kana Mong Yiii", "3001"),
    ("Bopo Hang Hani Hira Kana Mong Phag Yiii", "3002"),
    ("Bopo Hang Hani Hira Kana", "3003 3013 301C-301F 3030 3037 FE45-FE46"),
    ("Hani",
      String.join ["3006 303E-303F 3190-319F 31C0-31E5 3220-3247 3280-32B0 32C0-32CB 32FF 3358-3370 ",
      "337B-337F 33E0-33FE 1D360-1D371 1F250-1F251"]),
    ("Bopo Hang Hani Hira Kana Mong Tibt Yiii", "3008-3009"),
    ("Bopo Hang Hani Hira Kana Lisu Mong Tibt Yiii", "300A-300B"),
    ("Bopo Hang Hani Hira Kana Yiii", "300C-3011 3014-301B 30FB FF61-FF65"),
    ("Bopo Hani", "302A-302D"),
    ("Hira Kana", "3031-3035 3099-309C 30A0 30FC FF70 FF9E-FF9F"),
    ("Hani Hira Kana", "303C-303D"),
    ("Hani Latn", "A700-A707"),
    ("Deva Dogr Gujr Guru Khoj Knda Kthi Mahj Mlym Modi Nand Shrd Sind Takr Tirh Tutg",
      "A830-A832"),
    ("Deva Dogr Gujr Guru Khoj Knda Kthi Mahj Modi Nand Shrd Sind Takr Tirh Tutg", "A833-A835"),
    ("Deva Dogr Gujr Guru Khoj Kthi Mahj Modi Sind Takr Tirh", "A836-A837 A839"),
    ("Deva Dogr Gujr Guru Khoj Kthi Mahj Modi Shrd Sind Takr Tirh", "A838"),
    ("Beng Deva Tutg", "A8F1"),
    ("Deva Taml", "A8F3"),
    ("Kali Latn Mymr", "A92E"),
    ("Bugi Java", "A9CF"),
    ("Arab Nkoo", "FD3E-FD3F"),
    ("Arab Thaa", "FDF2 FDFD"),
    ("Cpmn Cprt Linb", "10100-10101"),
    ("Cprt Linb", "10102 10137-1013F"),
    ("Cprt Lina Linb", "10107-10133"),
    ("Arab Copt", "102E0-102FB"),
    ("Mani Ougr", "10AF2")]

/-- The names of scripts, with their codes. -/
def scriptNames : List (String × String) :=
  [
    ("adlam", "Adlm"), ("adlm", "Adlm"), ("aghb", "Aghb"), ("ahom", "Ahom"),
    ("anatolianhieroglyphs", "Hluw"), ("arab", "Arab"), ("arabic", "Arab"), ("armenian", "Armn"),
    ("armi", "Armi"), ("armn", "Armn"), ("avestan", "Avst"), ("avst", "Avst"), ("bali", "Bali"),
    ("balinese", "Bali"), ("bamu", "Bamu"), ("bamum", "Bamu"), ("bass", "Bass"),
    ("bassavah", "Bass"), ("batak", "Batk"), ("batk", "Batk"), ("beng", "Beng"),
    ("bengali", "Beng"), ("bhaiksuki", "Bhks"), ("bhks", "Bhks"), ("bopo", "Bopo"),
    ("bopomofo", "Bopo"), ("brah", "Brah"), ("brahmi", "Brah"), ("brai", "Brai"),
    ("braille", "Brai"), ("bugi", "Bugi"), ("buginese", "Bugi"), ("buhd", "Buhd"),
    ("buhid", "Buhd"), ("cakm", "Cakm"), ("canadianaboriginal", "Cans"), ("cans", "Cans"),
    ("cari", "Cari"), ("carian", "Cari"), ("caucasianalbanian", "Aghb"), ("chakma", "Cakm"),
    ("cham", "Cham"), ("cher", "Cher"), ("cherokee", "Cher"), ("chorasmian", "Chrs"),
    ("chrs", "Chrs"), ("common", "Zyyy"), ("copt", "Copt"), ("coptic", "Copt"), ("cpmn", "Cpmn"),
    ("cprt", "Cprt"), ("cuneiform", "Xsux"), ("cypriot", "Cprt"), ("cyprominoan", "Cpmn"),
    ("cyrillic", "Cyrl"), ("cyrl", "Cyrl"), ("deseret", "Dsrt"), ("deva", "Deva"),
    ("devanagari", "Deva"), ("diak", "Diak"), ("divesakuru", "Diak"), ("dogr", "Dogr"),
    ("dogra", "Dogr"), ("dsrt", "Dsrt"), ("dupl", "Dupl"), ("duployan", "Dupl"), ("egyp", "Egyp"),
    ("egyptianhieroglyphs", "Egyp"), ("elba", "Elba"), ("elbasan", "Elba"), ("elym", "Elym"),
    ("elymaic", "Elym"), ("ethi", "Ethi"), ("ethiopic", "Ethi"), ("gara", "Gara"),
    ("garay", "Gara"), ("geor", "Geor"), ("georgian", "Geor"), ("glag", "Glag"),
    ("glagolitic", "Glag"), ("gong", "Gong"), ("gonm", "Gonm"), ("goth", "Goth"),
    ("gothic", "Goth"), ("gran", "Gran"), ("grantha", "Gran"), ("greek", "Grek"), ("grek", "Grek"),
    ("gujarati", "Gujr"), ("gujr", "Gujr"), ("gukh", "Gukh"), ("gunjalagondi", "Gong"),
    ("gurmukhi", "Guru"), ("guru", "Guru"), ("gurungkhema", "Gukh"), ("han", "Hani"),
    ("hang", "Hang"), ("hangul", "Hang"), ("hani", "Hani"), ("hanifirohingya", "Rohg"),
    ("hano", "Hano"), ("hanunoo", "Hano"), ("hatr", "Hatr"), ("hatran", "Hatr"), ("hebr", "Hebr"),
    ("hebrew", "Hebr"), ("hira", "Hira"), ("hiragana", "Hira"), ("hluw", "Hluw"), ("hmng", "Hmng"),
    ("hmnp", "Hmnp"), ("hung", "Hung"), ("imperialaramaic", "Armi"), ("inherited", "Zinh"),
    ("inscriptionalpahlavi", "Phli"), ("inscriptionalparthian", "Prti"), ("ital", "Ital"),
    ("java", "Java"), ("javanese", "Java"), ("kaithi", "Kthi"), ("kali", "Kali"), ("kana", "Kana"),
    ("kannada", "Knda"), ("katakana", "Kana"), ("kawi", "Kawi"), ("kayahli", "Kali"),
    ("khar", "Khar"), ("kharoshthi", "Khar"), ("khitansmallscript", "Kits"), ("khmer", "Khmr"),
    ("khmr", "Khmr"), ("khoj", "Khoj"), ("khojki", "Khoj"), ("khudawadi", "Sind"),
    ("kiratrai", "Krai"), ("kits", "Kits"), ("knda", "Knda"), ("krai", "Krai"), ("kthi", "Kthi"),
    ("lana", "Lana"), ("lao", "Laoo"), ("laoo", "Laoo"), ("latin", "Latn"), ("latn", "Latn"),
    ("lepc", "Lepc"), ("lepcha", "Lepc"), ("limb", "Limb"), ("limbu", "Limb"), ("lina", "Lina"),
    ("linb", "Linb"), ("lineara", "Lina"), ("linearb", "Linb"), ("lisu", "Lisu"), ("lyci", "Lyci"),
    ("lycian", "Lyci"), ("lydi", "Lydi"), ("lydian", "Lydi"), ("mahajani", "Mahj"),
    ("mahj", "Mahj"), ("maka", "Maka"), ("makasar", "Maka"), ("malayalam", "Mlym"),
    ("mand", "Mand"), ("mandaic", "Mand"), ("mani", "Mani"), ("manichaean", "Mani"),
    ("marc", "Marc"), ("marchen", "Marc"), ("masaramgondi", "Gonm"), ("medefaidrin", "Medf"),
    ("medf", "Medf"), ("meeteimayek", "Mtei"), ("mend", "Mend"), ("mendekikakui", "Mend"),
    ("merc", "Merc"), ("mero", "Mero"), ("meroiticcursive", "Merc"),
    ("meroitichieroglyphs", "Mero"), ("miao", "Plrd"), ("mlym", "Mlym"), ("modi", "Modi"),
    ("mong", "Mong"), ("mongolian", "Mong"), ("mro", "Mroo"), ("mroo", "Mroo"), ("mtei", "Mtei"),
    ("mult", "Mult"), ("multani", "Mult"), ("myanmar", "Mymr"), ("mymr", "Mymr"),
    ("nabataean", "Nbat"), ("nagm", "Nagm"), ("nagmundari", "Nagm"), ("nand", "Nand"),
    ("nandinagari", "Nand"), ("narb", "Narb"), ("nbat", "Nbat"), ("newa", "Newa"),
    ("newtailue", "Talu"), ("nko", "Nkoo"), ("nkoo", "Nkoo"), ("nshu", "Nshu"), ("nushu", "Nshu"),
    ("nyiakengpuachuehmong", "Hmnp"), ("ogam", "Ogam"), ("ogham", "Ogam"), ("olchiki", "Olck"),
    ("olck", "Olck"), ("oldhungarian", "Hung"), ("olditalic", "Ital"), ("oldnortharabian", "Narb"),
    ("oldpermic", "Perm"), ("oldpersian", "Xpeo"), ("oldsogdian", "Sogo"),
    ("oldsoutharabian", "Sarb"), ("oldturkic", "Orkh"), ("olduyghur", "Ougr"), ("olonal", "Onao"),
    ("onao", "Onao"), ("oriya", "Orya"), ("orkh", "Orkh"), ("orya", "Orya"), ("osage", "Osge"),
    ("osge", "Osge"), ("osma", "Osma"), ("osmanya", "Osma"), ("ougr", "Ougr"),
    ("pahawhhmong", "Hmng"), ("palm", "Palm"), ("palmyrene", "Palm"), ("pauc", "Pauc"),
    ("paucinhau", "Pauc"), ("perm", "Perm"), ("phag", "Phag"), ("phagspa", "Phag"),
    ("phli", "Phli"), ("phlp", "Phlp"), ("phnx", "Phnx"), ("phoenician", "Phnx"), ("plrd", "Plrd"),
    ("prti", "Prti"), ("psalterpahlavi", "Phlp"), ("qaac", "Copt"), ("qaai", "Zinh"),
    ("rejang", "Rjng"), ("rjng", "Rjng"), ("rohg", "Rohg"), ("runic", "Runr"), ("runr", "Runr"),
    ("samaritan", "Samr"), ("samr", "Samr"), ("sarb", "Sarb"), ("saur", "Saur"),
    ("saurashtra", "Saur"), ("sgnw", "Sgnw"), ("sharada", "Shrd"), ("shavian", "Shaw"),
    ("shaw", "Shaw"), ("shrd", "Shrd"), ("sidd", "Sidd"), ("siddham", "Sidd"),
    ("signwriting", "Sgnw"), ("sind", "Sind"), ("sinh", "Sinh"), ("sinhala", "Sinh"),
    ("sogd", "Sogd"), ("sogdian", "Sogd"), ("sogo", "Sogo"), ("sora", "Sora"),
    ("sorasompeng", "Sora"), ("soyo", "Soyo"), ("soyombo", "Soyo"), ("sund", "Sund"),
    ("sundanese", "Sund"), ("sunu", "Sunu"), ("sunuwar", "Sunu"), ("sylo", "Sylo"),
    ("sylotinagri", "Sylo"), ("syrc", "Syrc"), ("syriac", "Syrc"), ("tagalog", "Tglg"),
    ("tagb", "Tagb"), ("tagbanwa", "Tagb"), ("taile", "Tale"), ("taitham", "Lana"),
    ("taiviet", "Tavt"), ("takr", "Takr"), ("takri", "Takr"), ("tale", "Tale"), ("talu", "Talu"),
    ("tamil", "Taml"), ("taml", "Taml"), ("tang", "Tang"), ("tangsa", "Tnsa"), ("tangut", "Tang"),
    ("tavt", "Tavt"), ("telu", "Telu"), ("telugu", "Telu"), ("tfng", "Tfng"), ("tglg", "Tglg"),
    ("thaa", "Thaa"), ("thaana", "Thaa"), ("thai", "Thai"), ("tibetan", "Tibt"), ("tibt", "Tibt"),
    ("tifinagh", "Tfng"), ("tirh", "Tirh"), ("tirhuta", "Tirh"), ("tnsa", "Tnsa"),
    ("todhri", "Todr"), ("todr", "Todr"), ("toto", "Toto"), ("tulutigalari", "Tutg"),
    ("tutg", "Tutg"), ("ugar", "Ugar"), ("ugaritic", "Ugar"), ("vai", "Vaii"), ("vaii", "Vaii"),
    ("vith", "Vith"), ("vithkuqi", "Vith"), ("wancho", "Wcho"), ("wara", "Wara"),
    ("warangciti", "Wara"), ("wcho", "Wcho"), ("xpeo", "Xpeo"), ("xsux", "Xsux"), ("yezi", "Yezi"),
    ("yezidi", "Yezi"), ("yi", "Yiii"), ("yiii", "Yiii"), ("zanabazarsquare", "Zanb"),
    ("zanb", "Zanb"), ("zinh", "Zinh"), ("zyyy", "Zyyy")]

end Receipts.Text
