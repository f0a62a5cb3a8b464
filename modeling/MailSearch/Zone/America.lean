-- Zones of the Americas, with the changes of their clocks up to the time from which a yearly rule
-- holds, or to the last change.
import MailSearch.Zone.Basic

namespace MailSearch

namespace OffsetTable

def pacificChanges : List (Stamp × Int) :=
  [(-2717640000, -28800), (-1633269600, -25200), (-1615129200, -28800), (-1601820000, -25200),
    (-1583679600, -28800), (-880207200, -25200), (-765385200, -28800), (-687967140, -25200),
    (-662655600, -28800), (-620838000, -25200), (-608137200, -28800), (-589388400, -25200),
    (-576082800, -28800), (-557938800, -25200), (-544633200, -28800), (-526489200, -25200),
    (-513183600, -28800), (-495039600, -25200), (-481734000, -28800), (-463590000, -25200),
    (-450284400, -28800), (-431535600, -25200), (-418230000, -28800), (-400086000, -25200),
    (-386780400, -28800), (-368636400, -25200), (-355330800, -28800), (-337186800, -25200),
    (-323881200, -28800), (-305737200, -25200), (-292431600, -28800), (-273682800, -25200),
    (-260982000, -28800), (-242233200, -25200), (-226508400, -28800), (-210783600, -25200),
    (-195058800, -28800), (-179334000, -25200), (-163609200, -28800), (-147884400, -25200),
    (-131554800, -28800), (-116434800, -25200), (-100105200, -28800), (-84376800, -25200),
    (-68655600, -28800), (-52927200, -25200), (-37206000, -28800), (-21477600, -25200),
    (-5756400, -28800), (9972000, -25200), (25693200, -28800), (41421600, -25200),
    (57747600, -28800), (73476000, -25200), (89197200, -28800), (104925600, -25200),
    (120646800, -28800), (126698400, -25200), (152096400, -28800), (162381600, -25200),
    (183546000, -28800), (199274400, -25200), (215600400, -28800), (230724000, -25200),
    (247050000, -28800), (262778400, -25200), (278499600, -28800), (294228000, -25200),
    (309949200, -28800), (325677600, -25200), (341398800, -28800), (357127200, -25200),
    (372848400, -28800), (388576800, -25200), (404902800, -28800), (420026400, -25200),
    (436352400, -28800), (452080800, -25200), (467802000, -28800), (483530400, -25200),
    (499251600, -28800), (514980000, -25200), (530701200, -28800), (544615200, -25200),
    (562150800, -28800), (576064800, -25200), (594205200, -28800), (607514400, -25200),
    (625654800, -28800), (638964000, -25200), (657104400, -28800), (671018400, -25200),
    (688554000, -28800), (702468000, -25200), (720003600, -28800), (733917600, -25200),
    (752058000, -28800), (765367200, -25200), (783507600, -28800), (796816800, -25200),
    (814957200, -28800), (828871200, -25200), (846406800, -28800), (860320800, -25200),
    (877856400, -28800), (891770400, -25200), (909306000, -28800), (923220000, -25200),
    (941360400, -28800), (954669600, -25200), (972810000, -28800), (986119200, -25200),
    (1004259600, -28800), (1018173600, -25200), (1035709200, -28800), (1049623200, -25200),
    (1067158800, -28800), (1081072800, -25200), (1099213200, -28800), (1112522400, -25200),
    (1130662800, -28800), (1143972000, -25200), (1162112400, -28800), (1173607200, -25200)]

/-- Pacific time. Daylight time runs from the second Sunday of March to the first of November. -/
def pacific : OffsetTable :=
  ⟨-28378, pacificChanges, some ⟨-28800, -25200, ⟨3, 2, 7200⟩, ⟨11, 1, 7200⟩⟩⟩

def easternChanges : List (Stamp × Int) :=
  [(-1633280400, -14400), (-1615140000, -18000), (-1601830800, -14400), (-1583690400, -18000),
    (-880218000, -14400), (-765396000, -18000), (-84387600, -14400), (-68666400, -18000),
    (-52938000, -14400), (-37216800, -18000), (-21488400, -14400), (-5767200, -18000),
    (9961200, -14400), (25682400, -18000), (41410800, -14400), (57736800, -18000),
    (73465200, -14400), (89186400, -18000), (104914800, -14400), (120636000, -18000),
    (126687600, -14400), (152085600, -18000), (162370800, -14400), (183535200, -18000),
    (199263600, -14400), (215589600, -18000), (230713200, -14400), (247039200, -18000),
    (262767600, -14400), (278488800, -18000), (294217200, -14400), (309938400, -18000),
    (325666800, -14400), (341388000, -18000), (357116400, -14400), (372837600, -18000),
    (388566000, -14400), (404892000, -18000), (420015600, -14400), (436341600, -18000),
    (452070000, -14400), (467791200, -18000), (483519600, -14400), (499240800, -18000),
    (514969200, -14400), (530690400, -18000), (544604400, -14400), (562140000, -18000),
    (576054000, -14400), (594194400, -18000), (607503600, -14400), (625644000, -18000),
    (638953200, -14400), (657093600, -18000), (671007600, -14400), (688543200, -18000),
    (702457200, -14400), (719992800, -18000), (733906800, -14400), (752047200, -18000),
    (765356400, -14400), (783496800, -18000), (796806000, -14400), (814946400, -18000),
    (828860400, -14400), (846396000, -18000), (860310000, -14400), (877845600, -18000),
    (891759600, -14400), (909295200, -18000), (923209200, -14400), (941349600, -18000),
    (954658800, -14400), (972799200, -18000), (986108400, -14400), (1004248800, -18000),
    (1018162800, -14400), (1035698400, -18000), (1049612400, -14400), (1067148000, -18000),
    (1081062000, -14400), (1099202400, -18000), (1112511600, -14400), (1130652000, -18000),
    (1143961200, -14400), (1162101600, -18000), (1173596400, -14400)]

/-- Eastern time by the rules of the United States. -/
def eastern : OffsetTable :=
  ⟨-18000, easternChanges, some ⟨-18000, -14400, ⟨3, 2, 7200⟩, ⟨11, 1, 7200⟩⟩⟩

def hawaiiChanges : List (Stamp × Int) :=
  [(-2334101314, -37800), (-1157283000, -34200), (-1155436200, -37800), (-880198200, -34200),
    (-765376200, -37800), (-712150200, -36000)]

/-- Hawaii time. -/
def hawaii : OffsetTable :=
  ⟨-37886, hawaiiChanges, none⟩

def saoPauloChanges : List (Stamp × Int) :=
  [(-1767214412, -10800), (-1206957600, -7200), (-1191362400, -10800), (-1175374800, -7200),
    (-1159826400, -10800), (-633819600, -7200), (-622069200, -10800), (-602283600, -7200),
    (-591832800, -10800), (-570747600, -7200), (-560210400, -10800), (-539125200, -7200),
    (-531352800, -10800), (-195426000, -7200), (-184197600, -10800), (-155163600, -7200),
    (-149983200, -10800), (-128898000, -7200), (-121122000, -10800), (-99954000, -7200),
    (-89589600, -10800), (-68418000, -7200), (-57967200, -10800), (499748400, -7200),
    (511236000, -10800), (530593200, -7200), (540266400, -10800), (562129200, -7200),
    (571197600, -10800), (592974000, -7200), (602042400, -10800), (624423600, -7200),
    (634701600, -10800), (656478000, -7200), (666756000, -10800), (687927600, -7200),
    (697600800, -10800), (719982000, -7200), (728445600, -10800), (750826800, -7200),
    (761709600, -10800), (782276400, -7200), (793159200, -10800), (813726000, -7200),
    (824004000, -10800), (844570800, -7200), (856058400, -10800), (876106800, -7200),
    (888717600, -10800), (908074800, -7200), (919562400, -10800), (938919600, -7200),
    (951616800, -10800), (970974000, -7200), (982461600, -10800), (1003028400, -7200),
    (1013911200, -10800), (1036292400, -7200), (1045360800, -10800), (1066532400, -7200),
    (1076810400, -10800), (1099364400, -7200), (1108864800, -10800), (1129431600, -7200),
    (1140314400, -10800), (1162695600, -7200), (1172368800, -10800), (1192330800, -7200),
    (1203213600, -10800), (1224385200, -7200), (1234663200, -10800), (1255834800, -7200),
    (1266717600, -10800), (1287284400, -7200), (1298167200, -10800), (1318734000, -7200),
    (1330221600, -10800), (1350788400, -7200), (1361066400, -10800), (1382238000, -7200),
    (1392516000, -10800), (1413687600, -7200), (1424570400, -10800), (1445137200, -7200),
    (1456020000, -10800), (1476586800, -7200), (1487469600, -10800), (1508036400, -7200),
    (1518919200, -10800), (1541300400, -7200), (1550368800, -10800)]

/-- The time of Sao Paulo, which gave up daylight time. -/
def saoPaulo : OffsetTable :=
  ⟨-11188, saoPauloChanges, none⟩

end OffsetTable

end MailSearch
