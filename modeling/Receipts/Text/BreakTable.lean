/-!
# Where texts break, and since when characters exist

The parts that characters play in the division of a text into words, sentences
and user-perceived characters, as runs over all code points; `Xx` is no part. A
run is written as its value, which begins with a capital letter, followed by the
number of code points in the run unless it is one. The ages are the versions of
the standard that added characters, with the characters they added as ranges of
hexadecimal code points.
-/

namespace Receipts.Text

/-- The parts in the division into words. -/
def wordBreakRuns : String :=
  String.join [
    "Xx10LfNl2CrXx18WsegspaceXxDqXx4SqXx4MnXxMbXxNu10MlMnXx5Le26Xx4ExXxLe26Xx10NlXx36LeXx2FoXx7",
    "LeXxMlXx2LeXx5Le23XxLe31XxLe480Xx6Le34Extend112Le5XxLe2Xx2Le4MnLeXx6LeMlLe3XxLeXxLe20Xx",
    "Le83XxLe139XxExtend7Le166XxLe38Xx2Le4XxLeMlLe41MnLeXx6Extend45XxExtendXxExtend2XxExtend2Xx",
    "ExtendXx8Hl27Xx4Hl4LeMlXx11Fo6Xx6Mn2Xx2Extend11XxFoXx3Le43Extend21Nu10XxNuMnXxLe2Extend",
    "Le99XxLeExtend7FoXxExtend6Le2Extend2XxExtend4Le2Nu10Le3Xx2LeXx15FoLeExtendLe30Extend27Xx2",
    "Le89Extend11LeXx14Nu10Le33Extend9Le2Xx2MnXxLeXx2ExtendXx2Le22Extend4LeExtend9LeExtend3Le",
    "Extend5Xx18Le25Extend3Xx4Le11Xx5Le24XxLe6XxFo2Xx5Extend9Le42Extend24FoExtend33Le54Extend3",
    "LeExtend18LeExtend7Le10Extend2Xx2Nu10XxLe16Extend3XxLe8Xx2Le2Xx2Le22XxLe7XxLeXx3Le4Xx2",
    "ExtendLeExtend7Xx2Extend2Xx2Extend3LeXx8ExtendXx4Le2XxLe3Extend2Xx2Nu10Le2Xx10LeXxExtend",
    "Xx2Extend3XxLe6Xx4Le2Xx2Le22XxLe7XxLe2XxLe2XxLe2Xx2ExtendXxExtend5Xx4Extend2Xx2Extend3Xx3",
    "ExtendXx7Le4XxLeXx7Nu10Extend2Le3ExtendXx11Extend3XxLe9XxLe3XxLe22XxLe7XxLe2XxLe5Xx2Extend",
    "LeExtend8XxExtend3XxExtend3Xx2LeXx15Le2Extend2Xx2Nu10Xx9LeExtend6XxExtend3XxLe8Xx2Le2Xx2",
    "Le22XxLe7XxLe2XxLe5Xx2ExtendLeExtend7Xx2Extend2Xx2Extend3Xx7Extend3Xx4Le2XxLe3Extend2Xx2",
    "Nu10XxLeXx16ExtendLeXxLe6Xx3Le3XxLe4Xx3Le2XxLeXxLe2Xx3Le2Xx3Le3Xx3Le12Xx4Extend5Xx3Extend3",
    "XxExtend4Xx2LeXx6ExtendXx14Nu10Xx16Extend5Le8XxLe3XxLe23XxLe16Xx2ExtendLeExtend7XxExtend3",
    "XxExtend4Xx7Extend2XxLe3Xx2LeXx2Le2Extend2Xx2Nu10Xx16LeExtend3XxLe8XxLe3XxLe23XxLe10XxLe5",
    "Xx2ExtendLeExtend7XxExtend3XxExtend4Xx7Extend2Xx6Le2XxLe2Extend2Xx2Nu10XxLe2ExtendXx12",
    "Extend4Le9XxLe3XxLe41Extend2LeExtend7XxExtend3XxExtend4LeXx5Le3ExtendXx7Le3Extend2Xx2Nu10",
    "Xx10Le6XxExtend3XxLe18Xx3Le24XxLe9XxLeXx2Le7Xx3ExtendXx4Extend6XxExtendXxExtend8Xx6Nu10Xx2",
    "Extend2Xx61ExtendXx2Extend7Xx12Extend8XxNu10Xx87ExtendXx2Extend9Xx11Extend7XxNu10Xx38Le",
    "Xx23Extend2Xx6Nu10Xx11ExtendXxExtendXxExtendXx4Extend2Le8XxLe36Xx4Extend20XxExtend2Le5",
    "Extend11XxExtend36Xx9ExtendXx100Extend20XxNu10Xx12Extend4Xx4Extend3XxExtend3Xx2Extend7Xx3",
    "Extend4Xx13Extend12XxExtendNu10Extend4Xx2Le38XxLeXx5LeXx2Le43XxLe333XxLe4Xx2Le7XxLeXxLe4",
    "Xx2Le41XxLe4Xx2Le33XxLe4Xx2Le7XxLeXxLe4Xx2Le15XxLe57XxLe4Xx2Le67Xx2Extend3Xx32Le16Xx16Le86",
    "Xx2Le6Xx3Le620Xx2Le17WsegspaceLe26Xx5Le75Xx3Le11Xx7Le18Extend4Xx9Le19Extend3Xx11Le18",
    "Extend2Xx12Le13XxLe3XxExtend2Xx64Extend32Xx9ExtendXx2Nu10Xx33Extend3FoExtendNu10Xx6Le89Xx7",
    "Le5Extend2Le34ExtendLeXx5Le70Xx10Le31XxExtend12Xx4Extend12Xx10Nu10Xx128Nu10Xx38Le23Extend5",
    "Xx57Extend10XxExtend29Xx2ExtendNu10Xx6Nu10Xx22Extend31Xx49Extend5Le47Extend17Le8Xx3Nu10",
    "Xx17Extend9Xx12Extend3Le30Extend13Le2Nu10Le44Extend14Xx12Le36Extend20Xx8Nu10Xx3Le3Nu10Le36",
    "Xx2Le11Xx5Le43Xx2Le3Xx16Extend3XxExtend21Le4ExtendLe6ExtendLe2Extend3LeXx5Le192Extend64",
    "Le278Xx2Le6Xx2Le38Xx2Le6Xx2Le8XxLeXxLeXxLeXxLe31Xx2Le53XxLe7XxLeXx3Le3XxLe7Xx3Le4Xx2Le6Xx4",
    "Le13Xx5Le3XxLe7Xx3Wsegspace7XxWsegspace3XxExtendZwjFo2Xx8Mb2Xx10MbXx2MlNl2Fo5ExXx15Ex2Xx3",
    "MnXx15ExXx10WsegspaceFo5XxFo10XxLeXx13LeXx16Le13Xx51Extend33Xx17LeXx4LeXx2Le10XxLeXx3Le5",
    "Xx6LeXxLeXxLeXxLe4XxLe11Xx2Le4Xx5Le5Xx4LeXx17Le41Xx813Le52Xx1814Le229Xx6Le4Extend3Le2Xx12",
    "Le38XxLeXx5LeXx2Le56Xx7LeXx15ExtendLe23Xx9Le7XxLe7XxLe7XxLe7XxLe7XxLe7XxLe7XxLe7XxExtend32",
    "Xx47LeXx464WsegspaceXx4LeXx36Extend6XxKa5Xx5Le2Xx92Extend2Ka2Xx3Ka91XxKa4Xx5Le43XxLe94Xx17",
    "Le32Xx48Ka16Xx208Ka47XxKa88Xx27816Le1165Xx67Le46Xx2Le269Xx3Le16Nu10Le2Xx20Le47Extend4Xx",
    "Extend10XxLe31Extend2Le80Extend2Xx22Le198Xx2Le2XxLeXxLe8Xx21Le16ExtendLe3ExtendLe4Extend",
    "Le23Extend5Xx4ExtendXx19Le52Xx12Extend2Le50Extend18Xx10Nu10Xx6Extend18Le6Xx3LeXxLe2Extend",
    "Nu10Le28Extend8Xx2Le23Extend13Xx12Le29Xx3Extend4Le47Extend14Xx14LeNu10Xx11ExtendXx10Nu10",
    "Xx6Le41Extend14Xx9Le3ExtendLe8Extend2Xx2Nu10Xx33Extend3Xx50ExtendXxExtend3Xx2Extend2Xx5",
    "Extend2XxExtendXx30Le11Extend5Xx2Le3Extend2Xx10Le6Xx2Le6Xx2Le6Xx9Le7XxLe7XxLe58Xx6Le115",
    "Extend8XxExtend2Xx2Nu10Xx6Le11172Xx12Le23Xx4Le49Xx8964Le7Xx12Le5Xx5HlExtendHl10XxHl13XxHl5",
    "XxHlXxHl2XxHl2XxHl10Le98Xx33Le363Xx18Le64Xx2Le54Xx40Le12Xx4Extend16MnXx2MlMnXx11Extend16",
    "Xx3Ex2Xx24Ex3MnXxMbXxMnMlXx26Le5XxLe135Xx2FoXx7MbXx4MnXxMbXxNu10MlMnXx5Le26Xx4ExXxLe26Xx11",
    "Ka56Extend2Le31Xx3Le6Xx2Le6Xx2Le6Xx2Le3Xx28Fo3Xx4Le12XxLe26XxLe19XxLe2XxLe15Xx2Le14Xx34",
    "Le123Xx69Le53Xx136ExtendXx130Le29Xx3Le49Xx15ExtendXx31Le32Xx13Le30Xx5Le38Extend5Xx5Le30Xx2",
    "Le36Xx4Le8XxLe5Xx42Le158Xx2Nu10Xx6Le36Xx4Le36Xx4Le40Xx8Le52Xx12Le11XxLe15XxLe7XxLe2XxLe11",
    "XxLe15XxLe7XxLe2Xx3Le52Xx12Le311Xx9Le22Xx10Le8Xx24Le6XxLe42XxLe9Xx69Le6Xx2LeXxLe44XxLe2Xx3",
    "LeXx2Le23Xx10Le23Xx9Le31Xx65Le19XxLe2Xx10Le22Xx10Le26Xx70Le56Xx6Le2Xx64LeExtend3XxExtend2",
    "Xx5Extend4Le4XxLe3XxLe29Xx2Extend3Xx4ExtendXx32Le29Xx3Le29Xx35Le8XxLe28Extend2Xx25Le54Xx10",
    "Le22Xx10Le19Xx13Le18Xx110Le73Xx55Le51Xx13Le51Xx13Le36Extend4Xx8Nu10Xx6Nu10Le28Xx3Extend5Xx",
    "Le23Xx250Le42XxExtend2Xx3Le2Xx16Le3Xx55Extend4Le29Xx10LeXx8Le22Extend11Xx31Le18Extend4Xx42",
    "Le21Xx27Le23Xx9Extend3Le53Extend15Xx31Nu10ExtendLe2Extend2LeXx9Extend4Le45Extend11Xx2FoXx4",
    "ExtendXx10FoXx2Le25Xx7Nu10Xx6Extend3Le36Extend14XxNu10Xx4LeExtend2LeXx8Le35ExtendXx2LeXx9",
    "Extend3Le48Extend14Le4Xx4Extend4XxExtend2Nu10LeXxLeXx35Le18XxLe25Extend12Xx6ExtendLe2",
    "ExtendXx62Le7XxLeXxLe4XxLe15XxLe10Xx7Le47Extend12Xx5Nu10Xx6Extend4XxLe8Xx2Le2Xx2Le22XxLe7",
    "XxLe2XxLe5XxExtend2LeExtend7Xx2Extend2Xx2Extend3Xx2LeXx6ExtendXx5Le5Extend2Xx2Extend7Xx3",
    "Extend5Xx11Le10XxLeXx2LeXxLe38XxLeExtend9XxExtendXx2ExtendXxExtend4XxExtend5LeExtendLeXx13",
    "Extend2Xx29Le53Extend18Le4Xx5Nu10Xx4ExtendLe3Xx30Le48Extend20Le2XxLeXx8Nu10Xx166Le47",
    "Extend7Xx2Extend9Xx23Le4Extend2Xx34Le48Extend17Xx3LeXx11Nu10Xx38Le43Extend13LeXx7Nu10Xx6",
    "Nu20Xx57Extend15Xx4Nu10Xx198Le44Extend15Xx101Le64Nu10Xx21Le8Xx2LeXx2Le8XxLe2XxLe24Extend6",
    "XxExtend2Xx2Extend4LeExtendLeExtend2Xx12Nu10Xx70Le8Xx2Le39Extend7Xx2Extend7LeXxLeExtend",
    "Xx27LeExtend10Le40Extend7LeExtend4Xx8ExtendXx8LeExtend11Le46Extend16Xx3LeXx18Le73Xx199Le33",
    "Xx15Nu10Xx6Le9XxLe37Extend8XxExtend8LeXx15Nu10Xx24Le30Xx2Extend22XxExtend14Xx73Le7XxLe2Xx",
    "Le38Extend6Xx3ExtendXxExtend2XxExtend7LeExtendXx8Nu10Xx6Le6XxLe2XxLe32Extend5XxExtend2Xx",
    "Extend5LeXx7Nu10Xx310Le19Extend4Xx9Extend2LeExtendLe13XxLe34Extend7Xx3Extend5Xx13Nu10",
    "ExtendXx85LeXx79Le922Xx102Le111Xx17Le196Xx2636Le97Xx15Le1072Fo16ExtendLe6Extend15Xx10",
    "Le3995Xx5Le583Xx6841Le30Extend18Nu10Xx1734Le569Xx7Le31XxNu10Xx6Le79XxNu10Xx6Le30Xx2Extend5",
    "Xx11Le48Extend7Xx9Le4Xx12Nu10Xx9Le21Xx5Le19Xx432Le45Xx3Nu10Xx198Le64Xx128Le75Xx4ExtendLe",
    "Extend55Xx7Extend4Le13Xx64Le2XxLeExtendXx11Extend2Xx16382Ka4XxKa7XxKa2XxKaXx287Ka3Xx50Ka",
    "Xx14Ka4Xx2712Le107Xx5Le13Xx3Le9Xx7Le10Xx3Extend2XxFo4Xx4172Nu10Xx518Extend46Xx2Extend23",
    "Xx542Extend5Xx3Extend6Fo8Extend8Xx2Extend7Xx30Extend4Xx148Extend3Xx443Le85XxLe71XxLe2Xx2Le",
    "Xx2Le2Xx2Le4XxLe12XxLeXxLe7XxLe65XxLe4Xx2Le8XxLe7XxLe28XxLe4XxLe5XxLeXx3Le7XxLe340Xx2Le25",
    "XxLe25XxLe31XxLe25XxLe31XxLe25XxLe31XxLe25XxLe31XxLe25XxLe8Xx2Nu50Xx512Extend55Xx4Extend50",
    "Xx8ExtendXx14ExtendXx22Extend5XxExtend15Xx1104Le31Xx6Le6Xx213Extend7XxExtend17Xx2Extend7Xx",
    "Extend2XxExtend5Xx5Le62Xx33ExtendXx112Le45Xx3Extend7Le7Xx2Nu10Xx4LeXx321Le30ExtendXx17Le44",
    "Extend4Nu10Xx470Le28Extend4Nu10Xx214Le30Extend2LeNu10Xx485Le7XxLe4XxLe2XxLe15XxLe197Xx11",
    "Extend7Xx41Le68Extend7LeXx4Nu10Xx1190Le4XxLe27XxLe2XxLeXx2LeXxLe10XxLe4XxLeXxLeXx6LeXx4Le",
    "XxLeXxLeXxLe3XxLe2XxLeXx2LeXxLeXxLeXxLeXxLeXxLe2XxLeXx2Le4XxLe7XxLe4XxLe4XxLeXxLe10XxLe17",
    "Xx5Le3XxLe5XxLe17Xx628Le26Xx6Le26Xx6Le26Xx92Ri26Xx507Extend5Xx2032Nu10Xx787463FoXx30",
    "Extend96Xx128Extend240Xx196112"]

/-- The parts in the division into sentences. -/
def sentenceBreakRuns : String :=
  String.join [
    "Xx9SpLfSp2CrXx18SpStClXx4Cl3Xx2Sc2AtXxNu10ScXx4StXxUp26ClXxClXx3Lo26ClXxClXx7SeXx26SpXx9Lo",
    "ClXxFoXx7LoXx4LoClXx4Up23XxUp7Lo24XxLo8UpLoUpLoUpLoUpLoUpLoUpLoUpLoUpLoUpLoUpLoUpLoUpLoUp",
    "LoUpLoUpLoUpLoUpLoUpLoUpLoUpLoUpLoUpLoUpLoUpLoUpLoUpLoUpLoUpLo2UpLoUpLoUpLoUpLoUpLoUpLoUp",
    "LoUpLo2UpLoUpLoUpLoUpLoUpLoUpLoUpLoUpLoUpLoUpLoUpLoUpLoUpLoUpLoUpLoUpLoUpLoUpLoUpLoUpLoUp",
    "LoUpLoUpLoUp2LoUpLoUpLo3Up2LoUpLoUp2LoUp3Lo2Up4LoUp2LoUp3Lo3Up2LoUp2LoUpLoUpLoUp2LoUpLo2Up",
    "LoUp2LoUp3LoUpLoUp2Lo2LeUpLo3Le4Up2LoUp2LoUp2LoUpLoUpLoUpLoUpLoUpLoUpLoUpLoUpLo2UpLoUpLoUp",
    "LoUpLoUpLoUpLoUpLoUpLoUpLo2Up2LoUpLoUp3LoUpLoUpLoUpLoUpLoUpLoUpLoUpLoUpLoUpLoUpLoUpLoUpLo",
    "UpLoUpLoUpLoUpLoUpLoUpLoUpLoUpLoUpLoUpLoUpLoUpLoUpLoUpLoUpLoUpLoUpLo7Up2LoUp2Lo2UpLoUp4Lo",
    "UpLoUpLoUpLoUpLo69LeLo36Le7Lo2Xx4Le12Xx14Lo5Xx7LeXxLeXx17Ex112UpLoUpLoLeXxUpLoXx2Lo4XxUp",
    "Xx6UpXxUp3XxUpXxUp2LoUp17XxUp9Lo35UpLo2Up3Lo3UpLoUpLoUpLoUpLoUpLoUpLoUpLoUpLoUpLoUpLoUpLo",
    "UpLo5UpLoXxUpLoUp2Lo2Up51Lo48UpLoUpLoUpLoUpLoUpLoUpLoUpLoUpLoUpLoUpLoUpLoUpLoUpLoUpLoUpLo",
    "UpLoUpLoXxEx7UpLoUpLoUpLoUpLoUpLoUpLoUpLoUpLoUpLoUpLoUpLoUpLoUpLoUpLoUpLoUpLoUpLoUpLoUpLo",
    "UpLoUpLoUpLoUpLoUpLoUpLoUpLoUpLoUp2LoUpLoUpLoUpLoUpLoUpLoUpLo2UpLoUpLoUpLoUpLoUpLoUpLoUpLo",
    "UpLoUpLoUpLoUpLoUpLoUpLoUpLoUpLoUpLoUpLoUpLoUpLoUpLoUpLoUpLoUpLoUpLoUpLoUpLoUpLoUpLoUpLoUp",
    "LoUpLoUpLoUpLoUpLoUpLoUpLoUpLoUpLoUpLoUpLoUpLoUpLoUpLoUpLoUpLoUpLoUpLoUpLoXxUp38Xx2LeXx3Sc",
    "Xx2Lo41StXx7Ex45XxExXxEx2XxEx2XxExXx8Le27Xx4Le5Xx12Fo6Xx6Sc2Xx2Ex11XxFoSt3Le43Ex21Nu10Xx",
    "Nu2XxLe2ExLe99StLeEx7FoXxEx6Le2Ex2XxEx4Le2Nu10Le3Xx2LeSt3Xx12FoLeExLe30Ex27Xx2Le89Ex11Le",
    "Xx14Nu10Le33Ex9Le2Xx2ScStLeXx2ExXx2Le22Ex4LeEx9LeEx3LeEx5Xx9StXxStXx3St2XxLe25Ex3Xx4Le11",
    "Xx5Le24XxLe6XxFo2Xx5Ex9Le42Ex24FoEx33Le54Ex3LeEx18LeEx7Le10Ex2St2Nu10XxLe16Ex3XxLe8Xx2Le2",
    "Xx2Le22XxLe7XxLeXx3Le4Xx2ExLeEx7Xx2Ex2Xx2Ex3LeXx8ExXx4Le2XxLe3Ex2Xx2Nu10Le2Xx10LeXxExXx2",
    "Ex3XxLe6Xx4Le2Xx2Le22XxLe7XxLe2XxLe2XxLe2Xx2ExXxEx5Xx4Ex2Xx2Ex3Xx3ExXx7Le4XxLeXx7Nu10Ex2",
    "Le3ExXx11Ex3XxLe9XxLe3XxLe22XxLe7XxLe2XxLe5Xx2ExLeEx8XxEx3XxEx3Xx2LeXx15Le2Ex2Xx2Nu10Xx9Le",
    "Ex6XxEx3XxLe8Xx2Le2Xx2Le22XxLe7XxLe2XxLe5Xx2ExLeEx7Xx2Ex2Xx2Ex3Xx7Ex3Xx4Le2XxLe3Ex2Xx2Nu10",
    "XxLeXx16ExLeXxLe6Xx3Le3XxLe4Xx3Le2XxLeXxLe2Xx3Le2Xx3Le3Xx3Le12Xx4Ex5Xx3Ex3XxEx4Xx2LeXx6Ex",
    "Xx14Nu10Xx16Ex5Le8XxLe3XxLe23XxLe16Xx2ExLeEx7XxEx3XxEx4Xx7Ex2XxLe3Xx2LeXx2Le2Ex2Xx2Nu10",
    "Xx16LeEx3XxLe8XxLe3XxLe23XxLe10XxLe5Xx2ExLeEx7XxEx3XxEx4Xx7Ex2Xx6Le2XxLe2Ex2Xx2Nu10XxLe2Ex",
    "Xx12Ex4Le9XxLe3XxLe41Ex2LeEx7XxEx3XxEx4LeXx5Le3ExXx7Le3Ex2Xx2Nu10Xx10Le6XxEx3XxLe18Xx3Le24",
    "XxLe9XxLeXx2Le7Xx3ExXx4Ex6XxExXxEx8Xx6Nu10Xx2Ex2Xx13Le48ExLe2Ex7Xx5Le7Ex8XxNu10Xx39Le2XxLe",
    "XxLe5XxLe24XxLeXxLe10ExLe2Ex9LeXx2Le5XxLeXxEx7XxNu10Xx2Le4Xx32LeXx23Ex2Xx6Nu10Xx11ExXxExXx",
    "ExCl4Ex2Le8XxLe36Xx4Ex20XxEx2Le5Ex11XxEx36Xx9ExXx57Le43Ex20LeNu10St2Xx4Le6Ex4Le4Ex3LeEx3",
    "Le2Ex7Le3Ex4Le13Ex12LeExNu10Ex4Xx2Up38XxUpXx5UpXx2Le43XxLoLe332XxLe4Xx2Le7XxLeXxLe4Xx2Le41",
    "XxLe4Xx2Le33XxLe4Xx2Le7XxLeXxLe4Xx2Le15XxLe57XxLe4Xx2Le67Xx2Ex3Xx2StXx4St2Xx23Le16Xx16Up86",
    "Xx2Lo6Xx3Le620XxStLe17SpLe26Cl2Xx3Le75Xx3Le11Xx7Le18Ex4Xx9Le19Ex3St2Xx9Le18Ex2Xx12Le13Xx",
    "Le3XxEx2Xx12Le52Ex32St2XxLeXx4LeExXx2Nu10Xx24ScStXx4ScStXxEx3FoExNu10Xx6Le89Xx7Le5Ex2Le34",
    "ExLeXx5Le70Xx10Le31XxEx12Xx4Ex12Xx8St2Nu10Le30Xx2Le5Xx11Le44Xx4Le26Xx6Nu10Xx38Le23Ex5Xx4",
    "Le53Ex10XxEx29Xx2ExNu10Xx6Nu10Xx13LeSt4Xx4Ex31Xx49Ex5Le47Ex17Le8XxSt2Nu10St2Xx2St2Xx11Ex9",
    "Xx9St3Ex3Le30Ex13Le2Nu10Le44Ex14Xx12Le36Ex20Xx3St2Xx3Nu10Xx3Le3Nu10Le36St2Lo9UpLoXx5Le43",
    "Xx2Le3Xx16Ex3XxEx21Le4ExLe6ExLe2Ex3LeXx5Lo192Ex64UpLoUpLoUpLoUpLoUpLoUpLoUpLoUpLoUpLoUpLo",
    "UpLoUpLoUpLoUpLoUpLoUpLoUpLoUpLoUpLoUpLoUpLoUpLoUpLoUpLoUpLoUpLoUpLoUpLoUpLoUpLoUpLoUpLoUp",
    "LoUpLoUpLoUpLoUpLoUpLoUpLoUpLoUpLoUpLoUpLoUpLoUpLoUpLoUpLoUpLoUpLoUpLoUpLoUpLoUpLoUpLoUpLo",
    "UpLoUpLoUpLoUpLoUpLoUpLoUpLoUpLoUpLoUpLoUpLoUpLoUpLoUpLoUpLoUpLoUpLoUpLoUpLoUpLo9UpLoUpLo",
    "UpLoUpLoUpLoUpLoUpLoUpLoUpLoUpLoUpLoUpLoUpLoUpLoUpLoUpLoUpLoUpLoUpLoUpLoUpLoUpLoUpLoUpLoUp",
    "LoUpLoUpLoUpLoUpLoUpLoUpLoUpLoUpLoUpLoUpLoUpLoUpLoUpLoUpLoUpLoUpLoUpLoUpLoUpLoUpLoUpLoUpLo",
    "UpLoUpLo9Up8Lo6Xx2Up6Xx2Lo8Up8Lo8Up8Lo6Xx2Up6Xx2Lo8XxUpXxUpXxUpXxUpLo8Up8Lo14Xx2Lo8Up8Lo8",
    "Up8Lo8Up8Lo5XxLo2Up5XxLoXx3Lo3XxLo2Up5Xx3Lo4Xx2Lo2Up4Xx4Lo8Up5Xx5Lo3XxLo2Up5Xx3Sp11FoEx2",
    "Fo2Xx3Sc2Xx3Cl8Xx4AtXx3Se2Fo5SpXx9Cl2XxSt2Xx7Cl2St3Xx21SpFo5XxFo10XxLoXx11Cl2LoXx13Cl2Xx",
    "Lo13Xx51Ex33Xx17UpXx4UpXx2LoUp3Lo2Up3LoXxUpXx3Up5Xx6UpXxUpXxUpXxUp4XxLoUp4LoLe4LoXx2Lo2Up2",
    "Xx5UpLo4Xx4LoXx17Up16Lo16Le3UpLoLe4Xx383Cl4Xx29Cl2Xx395Up26Lo26Xx625Cl6Xx7Cl14Xx79Cl2Xx31",
    "Cl10Xx403Cl22Xx63Cl4Xx32Cl2Xx514Up48Lo48UpLoUp3Lo2UpLoUpLoUpLoUp4LoUpLo2UpLo8Up3LoUpLoUpLo",
    "UpLoUpLoUpLoUpLoUpLoUpLoUpLoUpLoUpLoUpLoUpLoUpLoUpLoUpLoUpLoUpLoUpLoUpLoUpLoUpLoUpLoUpLoUp",
    "LoUpLoUpLoUpLoUpLoUpLoUpLoUpLoUpLoUpLoUpLoUpLoUpLoUpLoUpLoUpLoUpLoUpLoUpLoUpLoUpLoUpLoUpLo",
    "UpLoUpLo2Xx6UpLoUpLoEx3UpLoXx5St3Xx4Lo38XxLoXx5LoXx2Le56Xx7LeXx15ExLe23Xx9Le7XxLe7XxLe7Xx",
    "Le7XxLe7XxLe7XxLe7XxLe7XxEx32Cl14Xx14Cl2Xx2Cl10Xx4StLeXx12StXx5ClXx16St2Cl8Xx419SpScStXx2",
    "Le3Cl10Xx2Cl8XxCl3XxLe9Ex6XxLe5Xx2Le5Xx4Le86Xx2Ex2Xx2Le3XxLe90XxLe4Xx5Le43XxLe94Xx17Le32",
    "Xx48Le16Xx512Le6592Xx64Le22157Xx67Le46XxStLe269XxSt2Le16Nu10Le2Xx20UpLoUpLoUpLoUpLoUpLoUp",
    "LoUpLoUpLoUpLoUpLoUpLoUpLoUpLoUpLoUpLoUpLoUpLoUpLoUpLoUpLoUpLoUpLoUpLoLeEx4XxEx10XxLeUpLo",
    "UpLoUpLoUpLoUpLoUpLoUpLoUpLoUpLoUpLoUpLoUpLoUpLoUpLo3Ex2Le80Ex2XxStXx3StXx31Le9Xx2UpLoUpLo",
    "UpLoUpLoUpLoUpLoUpLo3UpLoUpLoUpLoUpLoUpLoUpLoUpLoUpLoUpLoUpLoUpLoUpLoUpLoUpLoUpLoUpLoUpLo",
    "UpLoUpLoUpLoUpLoUpLoUpLoUpLoUpLoUpLoUpLoUpLoUpLoUpLoUpLo10UpLoUpLoUp2LoUpLoUpLoUpLoUpLoLe",
    "Xx2UpLoUpLoLeUpLoUpLo3UpLoUpLoUpLoUpLoUpLoUpLoUpLoUpLoUpLoUpLoUp5LoUp5LoUpLoUpLoUpLoUpLoUp",
    "LoUpLoUpLoUp4LoUpLoUp2LoXx2UpLoXxLoXxLoUpLoUpLoUpLoUpXx21Lo3UpLoLeLo3Le7ExLe3ExLe4ExLe23",
    "Ex5Xx4ExXx19Le52Xx2St2Xx8Ex2Le50Ex18Xx8St2Nu10Xx6Ex18Le6Xx3LeXxLe2ExNu10Le28Ex8XxStLe23",
    "Ex13Xx12Le29Xx3Ex4Le47Ex14Xx7St2Xx5LeNu10Xx6Le5ExLe10Nu10Le5XxLe41Ex14Xx9Le3ExLe8Ex2Xx2",
    "Nu10Xx3St3Le23Xx3LeEx3Le50ExLeEx3Le2Ex2Le5Ex2LeExLeXx24Le3Xx2Le11Ex5St2Le3Ex2Xx10Le6Xx2Le6",
    "Xx2Le6Xx9Le7XxLe7XxLo43XxLo14Xx6Lo80Le35Ex8StEx2Xx2Nu10Xx6Le11172Xx12Le23Xx4Le49Xx8452",
    "Le366Xx2Le106Xx38Lo7Xx12Lo5Xx5LeExLe10XxLe13XxLe5XxLeXxLe2XxLe2XxLe108Xx33Le363Cl2Xx16Le64",
    "Xx2Le54Xx40Le12Xx4Ex16Sc2StScXxSt2Cl2Xx7Ex16XxSc2Xx2Cl16Xx2Cl2Xx7Sc2AtXx2ScSt2ScCl6Xx4Sc",
    "Xx12Le5XxLe135Xx2FoXxStXx6Cl2Xx2Sc2AtXxNu10ScXx4StXxUp26ClXxClXx3Lo26ClXxClXxCl2StCl2ScXx",
    "Le56Ex2Le31Xx3Le6Xx2Le6Xx2Le6Xx2Le3Xx28Fo3Xx4Le12XxLe26XxLe19XxLe2XxLe15Xx2Le14Xx34Le123",
    "Xx69Le53Xx136ExXx130Le29Xx3Le49Xx15ExXx31Le32Xx13Le30Xx5Le38Ex5Xx5Le30Xx2Le36Xx4Le8XxLe5",
    "Xx42Up40Lo40Le78Xx2Nu10Xx6Up36Xx4Lo36Xx4Le40Xx8Le52Xx12Up11XxUp15XxUp7XxUp2XxLo11XxLo15Xx",
    "Lo7XxLo2Xx3Le52Xx12Le311Xx9Le22Xx10Le8Xx24LoLe2Lo3XxLo42XxLo9Xx69Le6Xx2LeXxLe44XxLe2Xx3Le",
    "Xx2Le23Xx10Le23Xx9Le31Xx65Le19XxLe2Xx10Le22Xx10Le26Xx70Le56Xx6Le2Xx64LeEx3XxEx2Xx5Ex4Le4Xx",
    "Le3XxLe29Xx2Ex3Xx4ExXx22St2Xx8Le29Xx3Le29Xx35Le8XxLe28Ex2Xx25Le54Xx10Le22Xx10Le19Xx13Le18",
    "Xx110Le73Xx55Up51Xx13Lo51Xx13Le36Ex4Xx8Nu10Xx6Nu10Le6Up22Xx3Ex5XxLeLo22Xx250Le42XxEx2Xx3",
    "Le2Xx16Le3Xx55Ex4Le29Xx10LeXx8Le22Ex11Xx4St5Xx22Le18Ex4St4Xx38Le21Xx27Le23Xx9Ex3Le53Ex15",
    "St2Xx29Nu10ExLe2Ex2LeXx9Ex4Le45Ex11Xx2FoSt4ExXx10FoXx2Le25Xx7Nu10Xx6Ex3Le36Ex14XxNu10XxSt3",
    "LeEx2LeXx8Le35ExXx2LeXx9Ex3Le48Ex14Le4St2Xx2Ex4StEx2Nu10LeXxLeXxSt2Xx32Le18XxLe25Ex12St2Xx",
    "St2XxExLe2ExXx62Le7XxLeXxLe4XxLe15XxLe10StXx6Le47Ex12Xx5Nu10Xx6Ex4XxLe8Xx2Le2Xx2Le22XxLe7",
    "XxLe2XxLe5XxEx2LeEx7Xx2Ex2Xx2Ex3Xx2LeXx6ExXx5Le5Ex2Xx2Ex7Xx3Ex5Xx11Le10XxLeXx2LeXxLe38XxLe",
    "Ex9XxExXx2ExXxEx4XxEx5LeExLeSt2Xx11Ex2Xx29Le53Ex18Le4St2Xx3Nu10Xx4ExLe3Xx30Le48Ex20Le2XxLe",
    "Xx8Nu10Xx166Le47Ex7Xx2Ex9XxSt2Xx5St15Le4Ex2Xx34Le48Ex17St2XxLeXx11Nu10Xx38Le43Ex13LeXx7",
    "Nu10Xx6Nu20Xx28Le27Xx2Ex15Xx4Nu10Xx2St3XxLe7Xx185Le44Ex15Xx101Up32Lo32Nu10Xx21Le8Xx2LeXx2",
    "Le8XxLe2XxLe24Ex6XxEx2Xx2Ex4LeExLeEx2StXxStXx9Nu10Xx70Le8Xx2Le39Ex7Xx2Ex7LeXxLeExXx27Le",
    "Ex10Le40Ex7LeEx4Xx3St2Xx3ExXx8LeEx11Le46Ex16XxSt2LeXx18Le73Xx199Le33Xx15Nu10Xx6Le9XxLe37",
    "Ex8XxEx8LeSt2Xx13Nu10Xx24Le30Xx2Ex22XxEx14Xx73Le7XxLe2XxLe38Ex6Xx3ExXxEx2XxEx7LeExXx8Nu10",
    "Xx6Le6XxLe2XxLe32Ex5XxEx2XxEx5LeXx7Nu10Xx310Le19Ex4St2Xx7Ex2LeExLe13XxLe34Ex7Xx3Ex5St2Xx11",
    "Nu10ExXx85LeXx79Le922Xx102Le111Xx17Le196Xx2636Le97Xx15Le1072Fo16ExLe6Ex15Xx10Le3995Xx5",
    "Le583Xx6841Le30Ex18Nu10Xx1734Le569Xx7Le31XxNu10Xx4St2Le79XxNu10Xx6Le30Xx2Ex5StXx10Le48Ex7",
    "St2Xx7Le4StXx11Nu10Xx9Le21Xx5Le19Xx432Le45XxSt2Nu10Xx198Up32Lo32Xx24StXx103Le75Xx4ExLeEx55",
    "Xx7Ex4Le13Xx64Le2XxLeExXx11Ex2Xx14Le6136Xx8Le1238Xx41Le10Xx8935Le4XxLe7XxLe2XxLe291Xx15Le",
    "Xx29Le3Xx2LeXx14Le4Xx8Le396Xx2308Le107Xx5Le13Xx3Le9Xx7Le10Xx3Ex2StFo4Xx4172Nu10Xx518Ex46",
    "Xx2Ex23Xx542Ex5Xx3Ex6Fo8Ex8Xx2Ex7Xx30Ex4Xx148Ex3Xx443Up26Lo26Up26Lo7XxLo18Up26Lo26UpXxUp2",
    "Xx2UpXx2Up2Xx2Up4XxUp8Lo4XxLoXxLo7XxLo11Up26Lo26Up2XxUp4Xx2Up8XxUp7XxLo26Up2XxUp4XxUp5XxUp",
    "Xx3Up7XxLo26Up26Lo26Up26Lo26Up26Lo26Up26Lo26Up26Lo26Up26Lo28Xx2Up25XxLo25XxLo6Up25XxLo25Xx",
    "Lo6Up25XxLo25XxLo6Up25XxLo25XxLo6Up25XxLo25XxLo6UpLoXx2Nu50Xx512Ex55Xx4Ex50Xx8ExXx14ExXx3",
    "StXx18Ex5XxEx15Xx1104Lo10LeLo20Xx6Lo6Xx213Ex7XxEx17Xx2Ex7XxEx2XxEx5Xx5Lo62Xx33ExXx112Le45",
    "Xx3Ex7Le7Xx2Nu10Xx4LeXx321Le30ExXx17Le44Ex4Nu10Xx470Le28Ex4Nu10Xx214Le30Ex2LeNu10Xx485Le7",
    "XxLe4XxLe2XxLe15XxLe197Xx11Ex7Xx41Up34Lo34Ex7LeXx4Nu10Xx1190Le4XxLe27XxLe2XxLeXx2LeXxLe10",
    "XxLe4XxLeXxLeXx6LeXx4LeXxLeXxLeXxLe3XxLe2XxLeXx2LeXxLeXxLeXxLeXxLeXxLe2XxLeXx2Le4XxLe7Xx",
    "Le4XxLe4XxLeXxLe10XxLe17Xx5Le3XxLe5XxLe17Xx628Up26Xx6Up26Xx6Up26Xx1260Cl3Xx1399Nu10Xx1030",
    "Le42720Xx32Le4154Xx6Le222Xx2Le5762Xx14Le7473Xx15Le622Xx2466Le542Xx1506Le4939Xx5Le4192",
    "Xx711761FoXx30Ex96Xx128Ex240Xx196112"]

/-- The parts in the division into user-perceived characters; composed syllables are left out. -/
def graphemeBreakRuns : String :=
  String.join [
    "Cn10LfCn2CrCn18Xx95Cn33Xx13CnXx594Ex112Xx275Ex7Xx263Ex45XxExXxEx2XxEx2XxExXx56Pp6Xx10Ex11",
    "XxCnXx46Ex21Xx16ExXx101Ex7PpXxEx6Xx2Ex2XxEx4Xx33PpXxExXx30Ex27Xx91Ex11Xx58Ex9Xx9ExXx24Ex4",
    "XxEx9XxEx3XxEx5Xx43Ex3Xx52Pp2Xx5Ex9Xx42Ex24PpEx32SmXx54ExSmExXxSm3Ex8Sm4ExSm2XxEx7Xx10Ex2",
    "Xx29ExSm2Xx56ExXxExSm2Ex4Xx2Sm2Xx2Sm2ExXx9ExXx10Ex2Xx26ExXx2Ex2SmXx56ExXxSm3Ex2Xx4Ex2Xx2",
    "Ex3Xx3ExXx30Ex2Xx3ExXx11Ex2SmXx56ExXxSm3Ex5XxEx2SmXxSm2ExXx20Ex2Xx22Ex6XxExSm2Xx56ExXxEx2",
    "SmEx4Xx2Sm2Xx2Sm2ExXx7Ex3Xx10Ex2Xx30ExXx59ExSmExSm2Xx3Sm3XxSm3ExXx9ExXx40ExSm3ExXx55ExXx",
    "Ex3Sm4XxEx3XxEx4Xx7Ex2Xx11Ex2Xx29ExSm2Xx56ExXxSmEx2SmExSm2XxEx3XxEx4Xx7Ex2Xx11Ex2Xx15Sm",
    "Xx12Ex2Sm2Xx55Ex2XxExSm2Ex4XxSm3XxSm3ExPpXx8ExXx10Ex2Xx29ExSm2Xx70ExXx4ExSm2Ex3XxExXxSm7Ex",
    "Xx18Sm2Xx61ExXxSmEx7Xx12Ex8Xx98ExXxSmEx9Xx11Ex7Xx73Ex2Xx27ExXxExXxExXx4Sm2Xx49Ex14SmEx5Xx",
    "Ex2Xx5Ex11XxEx36Xx9ExXx102Ex4SmEx6XxEx2Sm2Ex2Xx23Sm2Ex2Xx4Ex3Xx16Ex4Xx13ExXxSmEx2Xx6ExXx15",
    "ExXx98L96V72T88Xx349Ex3Xx946Ex4Xx28Ex3Xx29Ex2Xx30Ex2Xx64Ex2SmEx7Sm8ExSm2Ex11Xx9ExXx45Ex3Cn",
    "ExXx117Ex2Xx34ExXx118Ex3Sm4Ex2Sm3Xx4Sm2ExSm6Ex3Xx219Ex2Sm2ExXx57SmExSmEx7XxExXxExXx2Ex8Sm6",
    "Ex10Xx2ExXx48Ex31Xx49Ex4SmXx47Ex10Sm4Ex3Xx38Ex9Xx12Ex2SmXx30SmEx4Sm2Ex6Xx56ExSmEx2Sm3ExSm",
    "Ex5Xx48Sm8Ex8Sm2Ex2Xx152Ex3XxEx13SmEx7Xx4ExXx6ExXx2SmEx2Xx198Ex64Xx523CnExZwjCn2Xx24Cn7",
    "Xx49Cn16Xx96Ex33Xx3070Ex3Xx141ExXx96Ex32Xx554Ex6Xx105Ex2Xx30164Ex4XxEx10Xx32Ex2Xx80Ex2",
    "Xx272ExXx3ExXx4ExXx23Sm2Ex2SmXx4ExXx83Sm2Xx50Sm16Ex2Xx26Ex18Xx13ExXx38Ex8Xx25Ex11SmExXx12",
    "L29Xx3Ex3SmXx47ExSm2Ex4Sm2Ex2Sm2ExXx36ExXx67Ex6Sm2Ex2Sm2Ex2Xx12ExXx8ExSmXx46ExXx51ExXxEx3",
    "Xx2Ex2Xx5Ex2XxExXx41SmEx2Sm2Xx5SmExXx236Sm2ExSm2ExSm2XxSmExXx11202V23Xx4T49Xx8994ExXx737",
    "Ex16Xx16Ex16Xx207CnXx158Ex2Xx80Cn12Xx513ExXx226ExXx149Ex5Xx1670Ex3XxEx2Xx5Ex4Xx40Ex3Xx4Ex",
    "Xx165Ex2Xx573Ex4Xx65Ex5Xx317Ex2Xx79Ex4Xx70Ex11Xx49Ex4Xx122SmExSmXx53Ex15Xx41ExXx2Ex2Xx10",
    "Ex3SmXx45Sm3Ex4Sm2Ex2Xx2PpXx4ExXx10PpXx50Ex3Xx36Ex5SmEx8Xx16Sm2Xx44ExXx12Ex2SmXx48Sm3Ex9Sm",
    "ExXxPp2Xx5Ex4XxSmExXx92Sm3Ex3Sm2Ex4Xx6ExXx2ExXx157ExSm3Ex8Xx21Ex2Sm2Xx55Ex2XxExSmExSm4Xx2",
    "Sm2Xx2Sm2ExXx9ExXx10Sm2Xx2Ex7Xx3Ex5Xx67ExSm2Ex6XxExXx2ExXxEx3SmXxSm2Ex3PpExXx14Ex2Xx82Sm3",
    "Ex8Sm2Ex3SmExXx23ExXx81ExSm2Ex6SmExSm2ExSmEx2SmEx2Xx235ExSm2Ex4Xx2Sm4Ex2SmEx2Xx27Ex2Xx82",
    "Sm3Ex8Sm2ExSmEx2Xx106ExSmExSm2Ex8Xx101ExSmExXx2Ex4SmEx5Xx256Sm3Ex9SmEx2Xx245ExSm5XxSm2Xx2",
    "Ex4PpSmPpSmExXx141Sm3Ex4Xx2Ex2Sm4ExXx3SmXx28Ex10Xx40Ex6SmXxEx4Xx8ExXx9Ex6Sm2Ex3Xx40Pp6Ex13",
    "SmEx2Xx405SmEx7XxEx6SmExXx82Ex22XxSmEx7SmEx2SmEx2Xx122Ex6Xx3ExXxEx2XxEx7PpExXx66Sm5XxEx2Xx",
    "Sm2ExSmExXx347Ex2Sm2Xx9Ex2PpSmXx48Sm2Ex5Xx3Sm2Ex3Xx23ExXx5333Cn16ExXx6Ex15Xx11464Ex12Sm3",
    "Ex3Xx2496Ex5Xx59Ex7Xx556VXx3V4Xx484ExXxSm55Xx7Ex4Xx81ExXx11Ex2Xx19627Ex2XxCn4Xx4700Ex46Xx2",
    "Ex23Xx542Ex5Xx3Ex6Cn8Ex8Xx2Ex7Xx30Ex4Xx148Ex3Xx1979Ex55Xx4Ex50Xx8ExXx14ExXx22Ex5XxEx15",
    "Xx1360Ex7XxEx17Xx2Ex7XxEx2XxEx5Xx100ExXx160Ex7Xx375ExXx61Ex4Xx508Ex4Xx254Ex2Xx736Ex7Xx109",
    "Ex7Xx2203Ri26Xx507Ex5Xx789504Cn32Ex96Cn128Ex240Cn3600Xx192512"]

/-- The versions with the characters they added, oldest first. -/
def ageTable : List (String × String) :=
  [
    ("1.1", String.join [
      "0-1F5 1FA-217 250-2A8 2B0-2DE 2E0-2E9 300-345 360-361 374-375 37A 37E 384-38A 38C 38E-3A1 ",
      "3A3-3CE 3D0-3D6 3DA 3DC 3DE 3E0 3E2-3F3 401-40C 40E-44F 451-45C 45E-486 490-4C4 4C7-4C8 ",
      "4CB-4CC 4D0-4EB 4EE-4F5 4F8-4F9 531-556 559-55F 561-587 589 5B0-5B9 5BB-5C3 5D0-5EA ",
      "5F0-5F4 60C 61B 61F 621-63A 640-652 660-66D 670-6B7 6BA-6BE 6C0-6CE 6D0-6ED 6F0-6F9 ",
      "901-903 905-939 93C-94D 950-954 958-970 981-983 985-98C 98F-990 993-9A8 9AA-9B0 9B2 ",
      "9B6-9B9 9BC 9BE-9C4 9C7-9C8 9CB-9CD 9D7 9DC-9DD 9DF-9E3 9E6-9FA A02 A05-A0A A0F-A10 ",
      "A13-A28 A2A-A30 A32-A33 A35-A36 A38-A39 A3C A3E-A42 A47-A48 A4B-A4D A59-A5C A5E A66-A74 ",
      "A81-A83 A85-A8B A8D A8F-A91 A93-AA8 AAA-AB0 AB2-AB3 AB5-AB9 ABC-AC5 AC7-AC9 ACB-ACD AD0 ",
      "AE0 AE6-AEF B01-B03 B05-B0C B0F-B10 B13-B28 B2A-B30 B32-B33 B36-B39 B3C-B43 B47-B48 ",
      "B4B-B4D B56-B57 B5C-B5D B5F-B61 B66-B70 B82-B83 B85-B8A B8E-B90 B92-B95 B99-B9A B9C ",
      "B9E-B9F BA3-BA4 BA8-BAA BAE-BB5 BB7-BB9 BBE-BC2 BC6-BC8 BCA-BCD BD7 BE7-BF2 C01-C03 ",
      "C05-C0C C0E-C10 C12-C28 C2A-C33 C35-C39 C3E-C44 C46-C48 C4A-C4D C55-C56 C60-C61 C66-C6F ",
      "C82-C83 C85-C8C C8E-C90 C92-CA8 CAA-CB3 CB5-CB9 CBE-CC4 CC6-CC8 CCA-CCD CD5-CD6 CDE ",
      "CE0-CE1 CE6-CEF D02-D03 D05-D0C D0E-D10 D12-D28 D2A-D39 D3E-D43 D46-D48 D4A-D4D D57 ",
      "D60-D61 D66-D6F E01-E3A E3F-E5B E81-E82 E84 E87-E88 E8A E8D E94-E97 E99-E9F EA1-EA3 EA5 ",
      "EA7 EAA-EAB EAD-EB9 EBB-EBD EC0-EC4 EC6 EC8-ECD ED0-ED9 EDC-EDD 10A0-10C5 10D0-10F6 10FB ",
      "1100-1159 115F-11A2 11A8-11F9 1E00-1E9A 1EA0-1EF9 1F00-1F15 1F18-1F1D 1F20-1F45 1F48-1F4D ",
      "1F50-1F57 1F59 1F5B 1F5D 1F5F-1F7D 1F80-1FB4 1FB6-1FC4 1FC6-1FD3 1FD6-1FDB 1FDD-1FEF ",
      "1FF2-1FF4 1FF6-1FFE 2000-202E 2030-2046 206A-2070 2074-208E 20A0-20AA 20D0-20E1 2100-2138 ",
      "2153-2182 2190-21EA 2200-22F1 2300 2302-237A 2400-2424 2440-244A 2460-24EA 2500-2595 ",
      "25A0-25EF 2600-2613 261A-266F 2701-2704 2706-2709 270C-2727 2729-274B 274D 274F-2752 2756 ",
      "2758-275E 2761-2767 2776-2794 2798-27AF 27B1-27BE 3000-3037 303F 3041-3094 3099-309E ",
      "30A1-30FE 3105-312C 3131-318E 3190-319F 3200-321C 3220-3243 3260-327B 327F-32B0 32C0-32CB ",
      "32D0-32FE 3300-3376 337B-33DD 33E0-33FE 4E00-9FA5 E000-FA2D FB00-FB06 FB13-FB17 FB1E-FB36 ",
      "FB38-FB3C FB3E FB40-FB41 FB43-FB44 FB46-FBB1 FBD3-FD3F FD50-FD8F FD92-FDC7 FDF0-FDFB ",
      "FE20-FE23 FE30-FE44 FE49-FE52 FE54-FE66 FE68-FE6B FE70-FE72 FE74 FE76-FEFC FEFF FF01-FF5E ",
      "FF61-FFBE FFC2-FFC7 FFCA-FFCF FFD2-FFD7 FFDA-FFDC FFE0-FFE6 FFE8-FFEE FFFD-FFFF"]),
    ("2.0", String.join [
      "591-5A1 5A3-5AF 5C4 F00-F47 F49-F69 F71-F8B F90-F95 F97 F99-FAD FB1-FB7 FB9 1E9B 20AB ",
      "AC00-D7A3 D800-DFFF 1FFFE-1FFFF 2FFFE-2FFFF 3FFFE-3FFFF 4FFFE-4FFFF 5FFFE-5FFFF ",
      "6FFFE-6FFFF 7FFFE-7FFFF 8FFFE-8FFFF 9FFFE-9FFFF AFFFE-AFFFF BFFFE-BFFFF CFFFE-CFFFF ",
      "DFFFE-DFFFF EFFFE-10FFFF"]),
    ("2.1", "20AC FFFC"),
    ("3.0", String.join [
      "1F6-1F9 218-21F 222-233 2A9-2AD 2DF 2EA-2EE 346-34E 362 3D7 3DB 3DD 3DF 3E1 400 40D 450 ",
      "45D 488-489 48C-48F 4EC-4ED 58A 653-655 6B8-6B9 6BF 6CF 6FA-6FE 700-70D 70F-72C 730-74A ",
      "780-7B0 D82-D83 D85-D96 D9A-DB1 DB3-DBB DBD DC0-DC6 DCA DCF-DD4 DD6 DD8-DDF DF2-DF4 F6A ",
      "F96 FAE-FB0 FB8 FBA-FBC FBE-FCC FCF 1000-1021 1023-1027 1029-102A 102C-1032 1036-1039 ",
      "1040-1059 1200-1206 1208-1246 1248 124A-124D 1250-1256 1258 125A-125D 1260-1286 1288 ",
      "128A-128D 1290-12AE 12B0 12B2-12B5 12B8-12BE 12C0 12C2-12C5 12C8-12CE 12D0-12D6 12D8-12EE ",
      "12F0-130E 1310 1312-1315 1318-131E 1320-1346 1348-135A 1361-137C 13A0-13F4 1401-1676 ",
      "1680-169C 16A0-16F0 1780-17DC 17E0-17E9 1800-180E 1810-1819 1820-1877 1880-18A9 202F ",
      "2048-204D 20AD-20AF 20E2-20E3 2139-213A 2183 21EB-21F3 2301 237B 237D-239A 2425-2426 ",
      "25F0-25F7 2619 2670-2671 2800-28FF 2E80-2E99 2E9B-2EF3 2F00-2FD5 2FF0-2FFB 3038-303A 303E ",
      "31A0-31B7 3400-4DB5 A000-A48C A490-A4A1 A4A4-A4B3 A4B5-A4C0 A4C2-A4C4 A4C6 FB1D FFF9-FFFB"]),
    ("3.1", String.join [
      "3F4-3F5 FDD0-FDEF 10300-1031E 10320-10323 10330-1034A 10400-10425 10428-1044D 1D000-1D0F5 ",
      "1D100-1D126 1D12A-1D1DD 1D400-1D454 1D456-1D49C 1D49E-1D49F 1D4A2 1D4A5-1D4A6 1D4A9-1D4AC ",
      "1D4AE-1D4B9 1D4BB 1D4BD-1D4C0 1D4C2-1D4C3 1D4C5-1D505 1D507-1D50A 1D50D-1D514 1D516-1D51C ",
      "1D51E-1D539 1D53B-1D53E 1D540-1D544 1D546 1D54A-1D550 1D552-1D6A3 1D6A8-1D7C9 1D7CE-1D7FF ",
      "20000-2A6D6 2F800-2FA1D E0001 E0020-E007F"]),
    ("3.2", String.join [
      "220 34F 363-36F 3D8-3D9 3F6 48A-48B 4C5-4C6 4C9-4CA 4CD-4CE 500-50F 66E-66F 7B1 10F7-10F8 ",
      "1700-170C 170E-1714 1720-1736 1740-1753 1760-176C 176E-1770 1772-1773 2047 204E-2052 2057 ",
      "205F-2063 2071 20B0-20B1 20E4-20EA 213D-214B 21F4-21FF 22F2-22FF 237C 239B-23CE 24EB-24FE ",
      "2596-259F 25F8-25FF 2616-2617 2672-267D 2680-2689 2768-2775 27D0-27EB 27F0-27FF 2900-2AFF ",
      "303B-303D 3095-3096 309F-30A0 30FF 31F0-31FF 3251-325F 32B1-32BF A4A2-A4A3 A4B4 A4C1 A4C5 ",
      "FA30-FA6A FDFC FE00-FE0F FE45-FE46 FE73 FF5F-FF60"]),
    ("4.0", String.join [
      "221 234-236 2AE-2AF 2EF-2FF 350-357 35D-35F 3F7-3FB 600-603 60D-615 656-658 6EE-6EF 6FF ",
      "72D-72F 74D-74F 904 9BD A01 A03 A8C AE1-AE3 AF1 B35 B71 BF3-BFA CBC-CBD 17DD 17F0-17F9 ",
      "1900-191C 1920-192B 1930-193B 1940 1944-196D 1970-1974 19E0-19FF 1D00-1D6B 2053-2054 213B ",
      "23CF-23D0 24FF 2614-2615 268A-2691 26A0-26A1 2B00-2B0D 321D-321E 3250 327C-327D 32CC-32CF ",
      "3377-337A 33DE-33DF 33FF 4DC0-4DFF FDFD FE47-FE48 10000-1000B 1000D-10026 10028-1003A ",
      "1003C-1003D 1003F-1004D 10050-1005D 10080-100FA 10100-10102 10107-10133 10137-1013F ",
      "10380-1039D 1039F 10426-10427 1044E-1049D 104A0-104A9 10800-10805 10808 1080A-10835 ",
      "10837-10838 1083C 1083F 1D300-1D356 1D4C1 E0100-E01EF"]),
    ("4.1", String.join [
      "237-241 358-35C 3FC-3FF 4F6-4F7 5A2 5C5-5C7 60B 61E 659-65E 750-76D 97D 9CE BB6 BE6 ",
      "FD0-FD1 10F9-10FA 10FC 1207 1247 1287 12AF 12CF 12EF 130F 131F 1347 135F-1360 1380-1399 ",
      "1980-19A9 19B0-19C9 19D0-19D9 19DE-19DF 1A00-1A1B 1A1E-1A1F 1D6C-1DC3 2055-2056 2058-205E ",
      "2090-2094 20B2-20B5 20EB 213C 214C 23D1-23DB 2618 267E-267F 2692-269C 26A2-26B1 27C0-27C6 ",
      "2B0E-2B13 2C00-2C2E 2C30-2C5E 2C80-2CEA 2CF9-2D25 2D30-2D65 2D6F 2D80-2D96 2DA0-2DA6 ",
      "2DA8-2DAE 2DB0-2DB6 2DB8-2DBE 2DC0-2DC6 2DC8-2DCE 2DD0-2DD6 2DD8-2DDE 2E00-2E17 2E1C-2E1D ",
      "31C0-31CF 327E 9FA6-9FBB A700-A716 A800-A82B FA70-FAD9 FE10-FE19 10140-1018A 103A0-103C3 ",
      "103C8-103D5 10A00-10A03 10A05-10A06 10A0C-10A13 10A15-10A17 10A19-10A33 10A38-10A3A ",
      "10A3F-10A47 10A50-10A58 1D200-1D245 1D6A4-1D6A5"]),
    ("5.0", String.join [
      "242-24F 37B-37D 4CF 4FA-4FF 510-513 5BA 7C0-7FA 97B-97C 97E-97F CE2-CE3 CF1-CF2 1B00-1B4B ",
      "1B50-1B7C 1DC4-1DCA 1DFE-1DFF 20EC-20EF 214D-214E 2184 23DC-23E7 26B2 27C7-27CA 2B14-2B1A ",
      "2B20-2B23 2C60-2C6C 2C74-2C77 A717-A71A A720-A721 A840-A877 10900-10919 1091F 12000-1236E ",
      "12400-12462 12470-12473 1D360-1D371 1D7CA-1D7CB"]),
    ("5.1", String.join [
      "370-373 376-377 3CF 487 514-523 606-60A 616-61A 63B-63F 76E-77F 971-972 A51 A75 B44 ",
      "B62-B63 BD0 C3D C58-C59 C62-C63 C78-C7F D3D D44 D62-D63 D70-D75 D79-D7F F6B-F6C FCE ",
      "FD2-FD4 1022 1028 102B 1033-1035 103A-103F 105A-1099 109E-109F 18AA 1B80-1BAA 1BAE-1BB9 ",
      "1C00-1C37 1C3B-1C49 1C4D-1C7F 1DCB-1DE6 1E9C-1E9F 1EFA-1EFF 2064 20F0 214F 2185-2188 269D ",
      "26B3-26BC 26C0-26C3 27CC 27EC-27EF 2B1B-2B1F 2B24-2B4C 2B50-2B54 2C6D-2C6F 2C71-2C73 ",
      "2C78-2C7D 2DE0-2DFF 2E18-2E1B 2E1E-2E30 312D 31D0-31E3 9FBC-9FC3 A500-A62B A640-A65F ",
      "A662-A673 A67C-A697 A71B-A71F A722-A78C A7FB-A7FF A880-A8C4 A8CE-A8D9 A900-A953 A95F ",
      "AA00-AA36 AA40-AA4D AA50-AA59 AA5C-AA5F FE24-FE26 10190-1019B 101D0-101FD 10280-1029C ",
      "102A0-102D0 10920-10939 1093F 1D129 1F000-1F02B 1F030-1F093"]),
    ("5.2", String.join [
      "524-525 800-82D 830-83E 900 94E 955 979-97A 9FB FD5-FD8 109A-109D 115A-115E 11A3-11A7 ",
      "11FA-11FF 1400 1677-167F 18B0-18F5 19AA-19AB 19DA 1A20-1A5E 1A60-1A7C 1A7F-1A89 1A90-1A99 ",
      "1AA0-1AAD 1CD0-1CF2 1DFD 20B6-20B8 2150-2152 2189 23E8 269E-269F 26BD-26BF 26C4-26CD ",
      "26CF-26E1 26E3 26E8-26FF 2757 2B55-2B59 2C70 2C7E-2C7F 2CEB-2CF1 2E31 3244-324F 9FC4-9FCB ",
      "A4D0-A4FF A6A0-A6F7 A830-A839 A8E0-A8FB A960-A97C A980-A9CD A9CF-A9D9 A9DE-A9DF AA60-AA7B ",
      "AA80-AAC2 AADB-AADF ABC0-ABED ABF0-ABF9 D7B0-D7C6 D7CB-D7FB FA6B-FA6D 10840-10855 ",
      "10857-1085F 1091A-1091B 10A60-10A7F 10B00-10B35 10B39-10B55 10B58-10B72 10B78-10B7F ",
      "10C00-10C48 10E60-10E7E 11080-110C1 13000-1342E 1F100-1F10A 1F110-1F12E 1F131 1F13D 1F13F ",
      "1F142 1F146 1F14A-1F14E 1F157 1F15F 1F179 1F17B-1F17C 1F17F 1F18A-1F18D 1F190 1F200 ",
      "1F210-1F231 1F240-1F248 2A700-2B734"]),
    ("6.0", String.join [
      "526-527 620 65F 840-85B 85E 93A-93B 94F 956-957 973-977 B72-B77 D29 D3A D4E F8C-F8F ",
      "FD9-FDA 135D-135E 1BC0-1BF3 1BFC-1BFF 1DFC 2095-209C 20B9 23E9-23F3 26CE 26E2 26E4-26E7 ",
      "2705 270A-270B 2728 274C 274E 2753-2755 275F-2760 2795-2797 27B0 27BF 27CE-27CF 2D70 2D7F ",
      "31B8-31BA A660-A661 A78D-A78E A790-A791 A7A0-A7A9 A7FA AB01-AB06 AB09-AB0E AB11-AB16 ",
      "AB20-AB26 AB28-AB2E FBB2-FBC1 11000-1104D 11052-1106F 16800-16A38 1B000-1B001 1F0A0-1F0AE ",
      "1F0B1-1F0BE 1F0C1-1F0CF 1F0D1-1F0DF 1F130 1F132-1F13C 1F13E 1F140-1F141 1F143-1F145 ",
      "1F147-1F149 1F14F-1F156 1F158-1F15E 1F160-1F169 1F170-1F178 1F17A 1F17D-1F17E 1F180-1F189 ",
      "1F18E-1F18F 1F191-1F19A 1F1E6-1F1FF 1F201-1F202 1F232-1F23A 1F250-1F251 1F300-1F320 ",
      "1F330-1F335 1F337-1F37C 1F380-1F393 1F3A0-1F3C4 1F3C6-1F3CA 1F3E0-1F3F0 1F400-1F43E 1F440 ",
      "1F442-1F4F7 1F4F9-1F4FC 1F500-1F53D 1F550-1F567 1F5FB-1F5FF 1F601-1F610 1F612-1F614 1F616 ",
      "1F618 1F61A 1F61C-1F61E 1F620-1F625 1F628-1F62B 1F62D 1F630-1F633 1F635-1F640 1F645-1F64F ",
      "1F680-1F6C5 1F700-1F773 2B740-2B81D"]),
    ("6.1", String.join [
      "58F 604 8A0 8A2-8AC 8E4-8FE AF0 EDE-EDF 10C7 10CD 10FD-10FF 1BAB-1BAD 1BBA-1BBF 1CC0-1CC7 ",
      "1CF3-1CF6 27CB 27CD 2CF2-2CF3 2D27 2D2D 2D66-2D67 2E32-2E3B 9FCC A674-A67B A69F A792-A793 ",
      "A7AA A7F8-A7F9 AAE0-AAF6 FA2E-FA2F 10980-109B7 109BE-109BF 110D0-110E8 110F0-110F9 ",
      "11100-11134 11136-11143 11180-111C8 111D0-111D9 11680-116B7 116C0-116C9 16F00-16F44 ",
      "16F50-16F7E 16F8F-16F9F 1EE00-1EE03 1EE05-1EE1F 1EE21-1EE22 1EE24 1EE27 1EE29-1EE32 ",
      "1EE34-1EE37 1EE39 1EE3B 1EE42 1EE47 1EE49 1EE4B 1EE4D-1EE4F 1EE51-1EE52 1EE54 1EE57 1EE59 ",
      "1EE5B 1EE5D 1EE5F 1EE61-1EE62 1EE64 1EE67-1EE6A 1EE6C-1EE72 1EE74-1EE77 1EE79-1EE7C 1EE7E ",
      "1EE80-1EE89 1EE8B-1EE9B 1EEA1-1EEA3 1EEA5-1EEA9 1EEAB-1EEBB 1EEF0-1EEF1 1F16A-1F16B ",
      "1F540-1F543 1F600 1F611 1F615 1F617 1F619 1F61B 1F61F 1F626-1F627 1F62C 1F62E-1F62F 1F634"]),
    ("6.2", "20BA"),
    ("6.3", "61C 2066-2069"),
    ("7.0", String.join [
      "37F 528-52F 58D-58E 605 8A1 8AD-8B2 8FF 978 980 C00 C34 C81 D01 DE6-DEF 16F1-16F8 ",
      "191D-191E 1AB0-1ABE 1CF8-1CF9 1DE7-1DF5 20BB-20BD 23F4-23FA 2700 2B4D-2B4F 2B5A-2B73 ",
      "2B76-2B95 2B98-2BB9 2BBD-2BC8 2BCA-2BD1 2E3C-2E42 A698-A69D A794-A79F A7AB-A7AD A7B0-A7B1 ",
      "A7F7 A9E0-A9FE AA7C-AA7F AB30-AB5F AB64-AB65 FE27-FE2D 1018B-1018C 101A0 102E0-102FB ",
      "1031F 10350-1037A 10500-10527 10530-10563 1056F 10600-10736 10740-10755 10760-10767 ",
      "10860-1089E 108A7-108AF 10A80-10A9F 10AC0-10AE6 10AEB-10AF6 10B80-10B91 10B99-10B9C ",
      "10BA9-10BAF 1107F 11150-11176 111CD 111DA 111E1-111F4 11200-11211 11213-1123D 112B0-112EA ",
      "112F0-112F9 11301-11303 11305-1130C 1130F-11310 11313-11328 1132A-11330 11332-11333 ",
      "11335-11339 1133C-11344 11347-11348 1134B-1134D 11357 1135D-11363 11366-1136C 11370-11374 ",
      "11480-114C7 114D0-114D9 11580-115B5 115B8-115C9 11600-11644 11650-11659 118A0-118F2 118FF ",
      "11AC0-11AF8 1236F-12398 12463-1246E 12474 16A40-16A5E 16A60-16A69 16A6E-16A6F 16AD0-16AED ",
      "16AF0-16AF5 16B00-16B45 16B50-16B59 16B5B-16B61 16B63-16B77 16B7D-16B8F 1BC00-1BC6A ",
      "1BC70-1BC7C 1BC80-1BC88 1BC90-1BC99 1BC9C-1BCA3 1E800-1E8C4 1E8C7-1E8D6 1F0BF 1F0E0-1F0F5 ",
      "1F10B-1F10C 1F321-1F32C 1F336 1F37D 1F394-1F39F 1F3C5 1F3CB-1F3CE 1F3D4-1F3DF 1F3F1-1F3F7 ",
      "1F43F 1F441 1F4F8 1F4FD-1F4FE 1F53E-1F53F 1F544-1F54A 1F568-1F579 1F57B-1F5A3 1F5A5-1F5FA ",
      "1F641-1F642 1F650-1F67F 1F6C6-1F6CF 1F6E0-1F6EC 1F6F0-1F6F3 1F780-1F7D4 1F800-1F80B ",
      "1F810-1F847 1F850-1F859 1F860-1F887 1F890-1F8AD"]),
    ("8.0", String.join [
      "8B3-8B4 8E3 AF9 C5A D5F 13F5 13F8-13FD 20BE 218A-218B 2BEC-2BEF 9FCD-9FD5 A69E A78F ",
      "A7B2-A7B7 A8FC-A8FD AB60-AB63 AB70-ABBF FE2E-FE2F 108E0-108F2 108F4-108F5 108FB-108FF ",
      "109BC-109BD 109C0-109CF 109D2-109FF 10C80-10CB2 10CC0-10CF2 10CFA-10CFF 111C9-111CC ",
      "111DB-111DF 11280-11286 11288 1128A-1128D 1128F-1129D 1129F-112A9 11300 11350 115CA-115DD ",
      "11700-11719 1171D-1172B 11730-1173F 12399 12480-12543 14400-14646 1D1DE-1D1E8 1D800-1DA8B ",
      "1DA9B-1DA9F 1DAA1-1DAAF 1F32D-1F32F 1F37E-1F37F 1F3CF-1F3D3 1F3F8-1F3FF 1F4FF 1F54B-1F54F ",
      "1F643-1F644 1F6D0 1F910-1F918 1F980-1F984 1F9C0 2B820-2CEA1"]),
    ("9.0", String.join [
      "8B6-8BD 8D4-8E2 C80 D4F D54-D56 D58-D5E D76-D78 1C80-1C88 1DFB 23FB-23FE 2E43-2E44 A7AE ",
      "A8C5 1018D-1018E 104B0-104D3 104D8-104FB 1123E 11400-11459 1145B 1145D 11660-1166C ",
      "11C00-11C08 11C0A-11C36 11C38-11C45 11C50-11C6C 11C70-11C8F 11C92-11CA7 11CA9-11CB6 16FE0 ",
      "17000-187EC 18800-18AF2 1E000-1E006 1E008-1E018 1E01B-1E021 1E023-1E024 1E026-1E02A ",
      "1E900-1E94A 1E950-1E959 1E95E-1E95F 1F19B-1F1AC 1F23B 1F57A 1F5A4 1F6D1-1F6D2 1F6F4-1F6F6 ",
      "1F919-1F91E 1F920-1F927 1F930 1F933-1F93E 1F940-1F94B 1F950-1F95E 1F985-1F991"]),
    ("10.0", String.join [
      "860-86A 9FC-9FD AFA-AFF D00 D3B-D3C 1CF7 1DF6-1DF9 20BF 23FF 2BD2 2E45-2E49 312E ",
      "9FD6-9FEA 1032D-1032F 11A00-11A47 11A50-11A83 11A86-11A9C 11A9E-11AA2 11D00-11D06 ",
      "11D08-11D09 11D0B-11D36 11D3A 11D3C-11D3D 11D3F-11D47 11D50-11D59 16FE1 1B002-1B11E ",
      "1B170-1B2FB 1F260-1F265 1F6D3-1F6D4 1F6F7-1F6F8 1F900-1F90B 1F91F 1F928-1F92F 1F931-1F932 ",
      "1F94C 1F95F-1F96B 1F992-1F997 1F9D0-1F9E6 2CEB0-2EBE0"]),
    ("11.0", String.join [
      "560 588 5EF 7FD-7FF 8D3 9FE A76 C04 C84 1878 1C90-1CBA 1CBD-1CBF 2BBA-2BBC 2BD3-2BEB ",
      "2BF0-2BFE 2E4A-2E4E 312F 9FEB-9FEF A7AF A7B8-A7B9 A8FE-A8FF 10A34-10A35 10A48 10D00-10D27 ",
      "10D30-10D39 10F00-10F27 10F30-10F59 110CD 11144-11146 1133B 1145E 1171A 11800-1183B 11A9D ",
      "11D60-11D65 11D67-11D68 11D6A-11D8E 11D90-11D91 11D93-11D98 11DA0-11DA9 11EE0-11EF8 ",
      "16E40-16E9A 187ED-187F1 1D2E0-1D2F3 1D372-1D378 1EC71-1ECB4 1F12F 1F6F9 1F7D5-1F7D8 ",
      "1F94D-1F94F 1F96C-1F970 1F973-1F976 1F97A 1F97C-1F97F 1F998-1F9A2 1F9B0-1F9B9 1F9C1-1F9C2 ",
      "1F9E7-1F9FF 1FA60-1FA6D"]),
    ("12.0", String.join [
      "C77 E86 E89 E8C E8E-E93 E98 EA0 EA8-EA9 EAC EBA 1CFA 2BC9 2BFF 2E4F A7BA-A7BF A7C2-A7C6 ",
      "AB66-AB67 10FE0-10FF6 1145F 116B8 119A0-119A7 119AA-119D7 119DA-119E4 11A84-11A85 ",
      "11FC0-11FF1 11FFF 13430-13438 16F45-16F4A 16F4F 16F7F-16F87 16FE2-16FE3 187F2-187F7 ",
      "1B150-1B152 1B164-1B167 1E100-1E12C 1E130-1E13D 1E140-1E149 1E14E-1E14F 1E2C0-1E2F9 1E2FF ",
      "1E94B 1ED01-1ED3D 1F16C 1F6D5 1F6FA 1F7E0-1F7EB 1F90D-1F90F 1F93F 1F971 1F97B 1F9A5-1F9AA ",
      "1F9AE-1F9AF 1F9BA-1F9BF 1F9C3-1F9CA 1F9CD-1F9CF 1FA00-1FA53 1FA70-1FA73 1FA78-1FA7A ",
      "1FA80-1FA82 1FA90-1FA95"]),
    ("12.1", "32FF"),
    ("13.0", String.join [
      "8BE-8C7 B55 D04 D81 1ABF-1AC0 2B97 2E50-2E52 31BB-31BF 4DB6-4DBF 9FF0-9FFC A7C7-A7CA ",
      "A7F5-A7F6 A82C AB68-AB6B 1019C 10E80-10EA9 10EAB-10EAD 10EB0-10EB1 10FB0-10FCB 11147 ",
      "111CE-111CF 1145A 11460-11461 11900-11906 11909 1190C-11913 11915-11916 11918-11935 ",
      "11937-11938 1193B-11946 11950-11959 11FB0 16FE4 16FF0-16FF1 18AF3-18CD5 18D00-18D08 ",
      "1F10D-1F10F 1F16D-1F16F 1F1AD 1F6D6-1F6D7 1F6FB-1F6FC 1F8B0-1F8B1 1F90C 1F972 1F977-1F978 ",
      "1F9A3-1F9A4 1F9AB-1F9AD 1F9CB 1FA74 1FA83-1FA86 1FA96-1FAA8 1FAB0-1FAB6 1FAC0-1FAC2 ",
      "1FAD0-1FAD6 1FB00-1FB92 1FB94-1FBCA 1FBF0-1FBF9 2A6D7-2A6DD 30000-3134A"]),
    ("14.0", String.join [
      "61D 870-88E 890-891 898-89F 8B5 8C8-8D2 C3C C5D CDD 170D 1715 171F 180F 1AC1-1ACE 1B4C ",
      "1B7D-1B7E 1DFA 20C0 2C2F 2C5F 2E53-2E5D 9FFD-9FFF A7C0-A7C1 A7D0-A7D1 A7D3 A7D5-A7D9 ",
      "A7F2-A7F4 FBC2 FD40-FD4F FDCF FDFE-FDFF 10570-1057A 1057C-1058A 1058C-10592 10594-10595 ",
      "10597-105A1 105A3-105B1 105B3-105B9 105BB-105BC 10780-10785 10787-107B0 107B2-107BA ",
      "10F70-10F89 11070-11075 110C2 116B9 11740-11746 11AB0-11ABF 12F90-12FF2 16A70-16ABE ",
      "16AC0-16AC9 1AFF0-1AFF3 1AFF5-1AFFB 1AFFD-1AFFE 1B11F-1B122 1CF00-1CF2D 1CF30-1CF46 ",
      "1CF50-1CFC3 1D1E9-1D1EA 1DF00-1DF1E 1E290-1E2AE 1E7E0-1E7E6 1E7E8-1E7EB 1E7ED-1E7EE ",
      "1E7F0-1E7FE 1F6DD-1F6DF 1F7F0 1F979 1F9CC 1FA7B-1FA7C 1FAA9-1FAAC 1FAB7-1FABA 1FAC3-1FAC5 ",
      "1FAD7-1FAD9 1FAE0-1FAE7 1FAF0-1FAF6 2A6DE-2A6DF 2B735-2B738"]),
    ("15.0", String.join [
      "CF3 ECE 10EFD-10EFF 1123F-11241 11B00-11B09 11F00-11F10 11F12-11F3A 11F3E-11F59 1342F ",
      "13439-13455 1B132 1B155 1D2C0-1D2D3 1DF25-1DF2A 1E030-1E06D 1E08F 1E4D0-1E4F9 1F6DC ",
      "1F774-1F776 1F77B-1F77F 1F7D9 1FA75-1FA77 1FA87-1FA88 1FAAD-1FAAF 1FABB-1FABD 1FABF ",
      "1FACE-1FACF 1FADA-1FADB 1FAE8 1FAF7-1FAF8 2B739 31350-323AF"]),
    ("15.1", "2FFC-2FFF 31EF 2EBF0-2EE5D"),
    ("16.0", String.join [
      "897 1B4E-1B4F 1B7F 1C89-1C8A 2427-2429 31E4-31E5 A7CB-A7CD A7DA-A7DC 105C0-105F3 ",
      "10D40-10D65 10D69-10D85 10D8E-10D8F 10EC2-10EC4 10EFC 11380-11389 1138B 1138E 11390-113B5 ",
      "113B7-113C0 113C2 113C5 113C7-113CA 113CC-113D5 113D7-113D8 113E1-113E2 116D0-116E3 ",
      "11BC0-11BE1 11BF0-11BF9 11F5A 13460-143FA 16100-16139 16D40-16D79 18CFF 1CC00-1CCF9 ",
      "1CD00-1CEB3 1E5D0-1E5FA 1E5FF 1F8B2-1F8BB 1F8C0-1F8C1 1FA89 1FA8F 1FABE 1FAC6 1FADC 1FADF ",
      "1FAE9 1FBCB-1FBEF"])]

end Receipts.Text
