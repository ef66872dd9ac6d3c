/-!
# Directions and joining in domain names

How the characters of domain names behave in text from right to left: in which
direction they are written, and whether letters join their neighbours. What is in
none of the sets is written from left to right. Ranges may run over characters
that no name holds.
-/

namespace Receipts.DomainName

/-- Letters written from right to left. -/
def rightRanges : String :=
  String.join [
    "5BE 5C0 5C3 5C6 5D0-5F4 7C0-7EA 7F4-7F5 7FA 7FE-815 81A 824 828 830-858 85E 10800-1091B ",
    "10920-10A00 10A10-10A35 10A40-10AE4 10AEB-10B35 10B40-10CFF 10D40-10D4F 10D6F-10D8F ",
    "10E80-10EA9 10EAD-10EB1 10F00-10F27 10F70-10F81 10F86-10FF6 1E800-1E8CF 1E922-1E943 ",
    "1E94B-1E95F"]

/-- Arabic letters, which are written from right to left. -/
def arabicLetterRanges : String :=
  String.join [
    "608 60B 60D 61B-64A 66D-66F 671-6D5 6E5-6E6 6EE-6EF 6FA-710 712-72F 74D-7A5 7B1 860-88F ",
    "8A0-8C9 FBB2-FBC2 FE73 10D00-10D23 10EC2-10ED0 10F30-10F45 10F51-10F59 1EC71-1ED3D"]

/-- Numbers that belong to text from right to left. -/
def arabicNumberRanges : String :=
  "660-669 66B-66C 10D30-10D39 10E60-10E7E"

/-- Numbers of text in both directions. -/
def numberRanges : String :=
  "30-39 6F0-6F9 102E1-102FB"

/-- Signs of numbers. -/
def numberSignRanges : String :=
  "2B 2D 2212"

/-- Separators in numbers. -/
def numberSeparatorRanges : String :=
  "2C 2E-2F 3A 60C 2044"

/-- What ends numbers, such as signs of currency. -/
def numberEndRanges : String :=
  String.join [
    "23-25 A2-A5 B0-B1 58F 609-60A 66A 9F2-9F3 9FB AF1 BF9 E3F 17DB 2030-2032 20A0-20C1 212E ",
    "2213 A838-A839 11FDD-11FE0 1E2FF"]

/-- Characters without a direction. -/
def neutralRanges : String :=
  String.join [
    "21-22 26-2A 3B-60 7B-7E A1 A6-AE B6-D7 F7 2B9-2BA 2C2-2CF 2D2-2ED 2EF-2FF 375 3F6 58A-58E ",
    "606-607 60E-60F 6DE 6E9 7F6-7F9 BF3-BF8 BFA C78-C7E F3A-F3D 1390-1399 1400 169B-169C ",
    "17F0-180A 1940-1945 19DE-19FF 2010-2027 2035-2043 2045-205E 2104-2129 213A-214D 218A-2211 ",
    "2214-2335 237B-2394 2396-26AB 26AD-27FF 2900-2BFF 2CE5-2CEA 2CF9-2CFF 2E00-3004 3008-3020 ",
    "3030 3037 303D-303F 30A0 30FB 31C0-31E5 4DC0-4DFF A490-A4C6 A60D-A60F A673 A67E-A67F ",
    "A700-A721 A788 A828-A82B A874-A877 AB6A-AB6B FBC3-FDFF FE45-FE46 10101 10140-1018C ",
    "10190-101A0 1091F 10B39-10B3F 10D6E 10ED1-10ED8 11052-11065 11660-1166C 11FD5-11FDC ",
    "11FE1-11FF1 16FE2 1CC00-1CEF0 1D1E9-1D241 1D245 1D300-1D356 1EEF0-1F12F 1F16D-1F16F 1F1AD ",
    "1F260-1FBFA"]

/-- Invisible characters without a direction. -/
def invisibleRanges : String :=
  "0-8 E-1B 7F 200C-200D"

/-- Blanks and separators. -/
def separatorRanges : String :=
  "9-D 1C-20"

/-- Marks without a width that have the direction of letters from left to right. -/
def leftMarkRanges : String :=
  "CBF CC6 11A07 11A08 11C3F"

/-- Letters that join both neighbours. -/
def joinsBothRanges : String :=
  String.join [
    "620 626 628 62A-62E 633-63F 641-647 649-64A 66E-66F 679-687 69A-6BF 6C1-6C2 6CC 6CE 6D0-6D1 ",
    "6FA-6FC 6FF 712-714 71A-71D 71F-727 729 72B 72D-72E 74E-758 75C-76A 76D-770 772 775-777 ",
    "77A-77F 7CA-7EA 841-845 848 84A-853 855 860 862-865 868 886 889-88D 88F 8A0-8A9 8AF-8B0 ",
    "8B3-8B8 8BA-8C8 1807 1820-1878 1887-18A8 18AA A840-A871 10AC0-10AC4 10AD3-10AD6 10AD8-10ADC ",
    "10ADE-10AE0 10AEB-10AEE 10B80 10B82 10B86-10B88 10B8A-10B8B 10B8D 10B90 10BAD-10BAE ",
    "10D01-10D21 10D23 10EC3-10EC4 10EC6-10EC7 10F30-10F32 10F34-10F44 10F51-10F53 10F70-10F73 ",
    "10F76-10F81 10FB0 10FB2-10FB3 10FB8 10FBB-10FBC 10FBE-10FBF 10FC1 10FC4 10FCA 1E922-1E943"]

/-- Letters that join the next letter alone. -/
def joinsNextRanges : String :=
  "A872 10ACD 10AD7 10D00 10FCB"

/-- Letters that join the previous letter alone. -/
def joinsPreviousRanges : String :=
  String.join [
    "622-625 627 629 62F-632 648 671-673 688-699 6C0 6C3-6CB 6CD 6CF 6D2-6D3 6D5 6EE-6EF 710 ",
    "715-719 71E 728 72A 72C 72F 74D 759-75B 76B-76C 771 773-774 778-779 840 846-847 849 854 ",
    "856-858 867 869-882 88E 8AA-8AC 8AE 8B1-8B2 8B9 10AC5 10AC7 10AC9-10ACA 10ACE-10AD2 10ADD ",
    "10AE1 10AE4 10AEF 10B81 10B83-10B85 10B89 10B8C 10B8E-10B8F 10B91 10BA9-10BAC 10D22 10EC2 ",
    "10F33 10F54 10F74-10F75 10FB4-10FB6 10FB9-10FBA 10FBD 10FC2-10FC3 10FC9"]

end Receipts.DomainName
