import LaneQuota.Calendar.Zone

namespace LaneQuota

namespace ZoneTable

def east (before since : List (Nat × Nat)) : List (Int × Int) :=
  before.map (fun c => (-(c.1 : Int), (c.2 : Int))) ++
    since.map (fun c => ((c.1 : Int), (c.2 : Int)))

def west (before since : List (Nat × Nat)) : List (Int × Int) :=
  (east before since).map (fun c => (c.1, -c.2))

def seoul : ZoneRules where
  first := 30472
  changes := east [
      (1948782472, 30600), (1830414600, 32400), (681210000, 36000), (672228000, 32400),
      (654771600, 36000), (640864800, 32400), (623408400, 36000), (609415200, 32400),
      (588848400, 36000), (577965600, 32400), (498128400, 30600), (462702600, 34200),
      (451733400, 30600), (429784200, 34200), (418296600, 30600), (399544200, 34200),
      (387451800, 30600), (368094600, 34200), (356002200, 30600), (336645000, 34200),
      (324552600, 30600), (305195400, 34200), (293103000, 30600), (264933000, 32400)] [
      (547578000, 36000), (560883600, 32400), (579027600, 36000), (592333200, 32400)]
  yearly := none

def kolkata : ZoneRules where
  first := 21208
  changes := east [
      (3645237208, 21200), (3155694800, 19270), (2019705670, 19800), (891581400, 23400),
      (872058600, 19800), (862637400, 23400), (764145000, 19800)] []
  yearly := none

def kathmandu : ZoneRules where
  first := 20476
  changes := east [
      (1577943676, 19800)] [
      (504901800, 20700)]
  yearly := none

def newYork : ZoneRules where
  first := -17762
  changes := west [
      (2717650800, 18000), (1633280400, 14400), (1615140000, 18000), (1601830800, 14400),
      (1583690400, 18000), (1570381200, 14400), (1551636000, 18000), (1536512400, 14400),
      (1523210400, 18000), (1504458000, 14400), (1491760800, 18000), (1473008400, 14400),
      (1459706400, 18000), (1441558800, 14400), (1428256800, 18000), (1410109200, 14400),
      (1396807200, 18000), (1378659600, 14400), (1365357600, 18000), (1347210000, 14400),
      (1333908000, 18000), (1315155600, 14400), (1301853600, 18000), (1283706000, 14400),
      (1270404000, 18000), (1252256400, 14400), (1238954400, 18000), (1220806800, 14400),
      (1207504800, 18000), (1189357200, 14400), (1176055200, 18000), (1157302800, 14400),
      (1144605600, 18000), (1125853200, 14400), (1112551200, 18000), (1094403600, 14400),
      (1081101600, 18000), (1062954000, 14400), (1049652000, 18000), (1031504400, 14400),
      (1018202400, 18000), (1000054800, 14400), (986752800, 18000), (968000400, 14400),
      (955303200, 18000), (936550800, 14400), (923248800, 18000), (905101200, 14400),
      (891799200, 18000), (880218000, 14400), (765396000, 18000), (747248400, 14400),
      (733946400, 18000), (715798800, 14400), (702496800, 18000), (684349200, 14400),
      (671047200, 18000), (652899600, 14400), (639597600, 18000), (620845200, 14400),
      (608148000, 18000), (589395600, 14400), (576093600, 18000), (557946000, 14400),
      (544644000, 18000), (526496400, 14400), (513194400, 18000), (495046800, 14400),
      (481744800, 18000), (463597200, 14400), (447271200, 18000), (431542800, 14400),
      (415821600, 18000), (400093200, 14400), (384372000, 18000), (368643600, 14400),
      (352922400, 18000), (337194000, 14400), (321472800, 18000), (305744400, 14400),
      (289418400, 18000), (273690000, 14400), (257968800, 18000), (242240400, 14400),
      (226519200, 18000), (210790800, 14400), (195069600, 18000), (179341200, 14400),
      (163620000, 18000), (147891600, 14400), (131565600, 18000), (116442000, 14400),
      (100116000, 18000), (84387600, 14400), (68666400, 18000), (52938000, 14400),
      (37216800, 18000), (21488400, 14400), (5767200, 18000)] [
      (9961200, 14400), (25682400, 18000), (41410800, 14400), (57736800, 18000),
      (73465200, 14400), (89186400, 18000), (104914800, 14400), (120636000, 18000),
      (126687600, 14400), (152085600, 18000), (162370800, 14400), (183535200, 18000),
      (199263600, 14400), (215589600, 18000), (230713200, 14400), (247039200, 18000),
      (262767600, 14400), (278488800, 18000), (294217200, 14400), (309938400, 18000),
      (325666800, 14400), (341388000, 18000), (357116400, 14400), (372837600, 18000),
      (388566000, 14400), (404892000, 18000), (420015600, 14400), (436341600, 18000),
      (452070000, 14400), (467791200, 18000), (483519600, 14400), (499240800, 18000),
      (514969200, 14400), (530690400, 18000), (544604400, 14400), (562140000, 18000),
      (576054000, 14400), (594194400, 18000), (607503600, 14400), (625644000, 18000),
      (638953200, 14400), (657093600, 18000), (671007600, 14400), (688543200, 18000),
      (702457200, 14400), (719992800, 18000), (733906800, 14400), (752047200, 18000),
      (765356400, 14400), (783496800, 18000), (796806000, 14400), (814946400, 18000),
      (828860400, 14400), (846396000, 18000), (860310000, 14400), (877845600, 18000),
      (891759600, 14400), (909295200, 18000), (923209200, 14400), (941349600, 18000),
      (954658800, 14400), (972799200, 18000), (986108400, 14400), (1004248800, 18000),
      (1018162800, 14400), (1035698400, 18000), (1049612400, 14400), (1067148000, 18000),
      (1081062000, 14400), (1099202400, 18000), (1112511600, 14400), (1130652000, 18000),
      (1143961200, 14400), (1162101600, 18000)]
  yearly := some ⟨2007, ⟨3, 2, 25200, -14400⟩, ⟨11, 1, 21600, -18000⟩⟩

def stJohns : ZoneRules where
  first := -12652
  changes := west [
      (1664130548, 9052), (1650137348, 12652), (1632076148, 9052), (1615145348, 12652),
      (1598650148, 9052), (1590100148, 12652), (1567286948, 9052), (1551565748, 12652),
      (1535837348, 9052), (1520116148, 12652), (1503782948, 9052), (1488666548, 12652),
      (1472333348, 9052), (1457216948, 12652), (1440883748, 9052), (1425767348, 12652),
      (1409434148, 9052), (1394317748, 12652), (1377984548, 9052), (1362263348, 12652),
      (1346534948, 9052), (1330813748, 12652), (1314480548, 9052), (1299364148, 12652),
      (1283030948, 9052), (1267914548, 12652), (1251581348, 9052), (1236464948, 12652),
      (1220131748, 9052), (1205015348, 12652), (1188682148, 9052), (1172960948, 12652),
      (1156627748, 9052), (1141511348, 12652), (1125178148, 9052), (1110061748, 12652),
      (1096921748, 12600), (1093728600, 9000), (1078612200, 12600), (1061670600, 9000),
      (1048973400, 12600), (1030221000, 9000), (1017523800, 12600), (998771400, 9000),
      (986074200, 12600), (966717000, 9000), (954624600, 12600), (935267400, 9000),
      (922570200, 12600), (903817800, 9000), (891120600, 12600), (872368200, 9000),
      (765401400, 12600), (746044200, 9000), (733347000, 12600), (714594600, 9000),
      (701897400, 12600), (683145000, 9000), (670447800, 12600), (651695400, 9000),
      (638998200, 12600), (619641000, 9000), (606943800, 12600), (589401000, 9000),
      (576099000, 12600), (557951400, 9000), (544649400, 12600), (526501800, 9000),
      (513199800, 12600), (495052200, 9000), (481750200, 12600), (463602600, 9000),
      (450300600, 12600), (431548200, 9000), (418246200, 12600), (400098600, 9000),
      (386796600, 12600), (368649000, 9000), (355347000, 12600), (337199400, 9000),
      (323897400, 12600), (305749800, 9000), (289423800, 12600), (273695400, 9000),
      (257974200, 12600), (242245800, 9000), (226524600, 12600), (210796200, 9000),
      (195075000, 12600), (179346600, 9000), (163625400, 12600), (147897000, 9000),
      (131571000, 12600), (116447400, 9000), (100121400, 12600), (84393000, 9000),
      (68671800, 12600), (52943400, 9000), (37222200, 12600), (21493800, 9000), (5772600, 12600)] [
      (9955800, 9000), (25677000, 12600), (41405400, 9000), (57731400, 12600), (73459800, 9000),
      (89181000, 12600), (104909400, 9000), (120630600, 12600), (136359000, 9000),
      (152080200, 12600), (167808600, 9000), (183529800, 12600), (199258200, 9000),
      (215584200, 12600), (230707800, 9000), (247033800, 12600), (262762200, 9000),
      (278483400, 12600), (294211800, 9000), (309933000, 12600), (325661400, 9000),
      (341382600, 12600), (357111000, 9000), (372832200, 12600), (388560600, 9000),
      (404886600, 12600), (420010200, 9000), (436336200, 12600), (452064600, 9000),
      (467785800, 12600), (483514200, 9000), (499235400, 12600), (514963800, 9000),
      (530685000, 12600), (544591860, 9000), (562127460, 12600), (576041460, 5400),
      (594178260, 12600), (607491060, 9000), (625631460, 12600), (638940660, 9000),
      (657081060, 12600), (670995060, 9000), (688530660, 12600), (702444660, 9000),
      (719980260, 12600), (733894260, 9000), (752034660, 12600), (765343860, 9000),
      (783484260, 12600), (796793460, 9000), (814933860, 12600), (828847860, 9000),
      (846383460, 12600), (860297460, 9000), (877833060, 12600), (891747060, 9000),
      (909282660, 12600), (923196660, 9000), (941337060, 12600), (954646260, 9000),
      (972786660, 12600), (986095860, 9000), (1004236260, 12600), (1018150260, 9000),
      (1035685860, 12600), (1049599860, 9000), (1067135460, 12600), (1081049460, 9000),
      (1099189860, 12600), (1112499060, 9000), (1130639460, 12600), (1143948660, 9000),
      (1162089060, 12600), (1173583860, 9000), (1194143460, 12600), (1205033460, 9000),
      (1225593060, 12600), (1236483060, 9000), (1257042660, 12600), (1268537460, 9000),
      (1289097060, 12600), (1299987060, 9000), (1320553800, 12600)]
  yearly := some ⟨2012, ⟨3, 2, 19800, -9000⟩, ⟨11, 1, 16200, -12600⟩⟩

def losAngeles : ZoneRules where
  first := -28378
  changes := west [
      (2717640000, 28800), (1633269600, 25200), (1615129200, 28800), (1601820000, 25200),
      (1583679600, 28800), (880207200, 25200), (765385200, 28800), (687967140, 25200),
      (662655600, 28800), (620838000, 25200), (608137200, 28800), (589388400, 25200),
      (576082800, 28800), (557938800, 25200), (544633200, 28800), (526489200, 25200),
      (513183600, 28800), (495039600, 25200), (481734000, 28800), (463590000, 25200),
      (450284400, 28800), (431535600, 25200), (418230000, 28800), (400086000, 25200),
      (386780400, 28800), (368636400, 25200), (355330800, 28800), (337186800, 25200),
      (323881200, 28800), (305737200, 25200), (292431600, 28800), (273682800, 25200),
      (260982000, 28800), (242233200, 25200), (226508400, 28800), (210783600, 25200),
      (195058800, 28800), (179334000, 25200), (163609200, 28800), (147884400, 25200),
      (131554800, 28800), (116434800, 25200), (100105200, 28800), (84376800, 25200),
      (68655600, 28800), (52927200, 25200), (37206000, 28800), (21477600, 25200),
      (5756400, 28800)] [
      (9972000, 25200), (25693200, 28800), (41421600, 25200), (57747600, 28800),
      (73476000, 25200), (89197200, 28800), (104925600, 25200), (120646800, 28800),
      (126698400, 25200), (152096400, 28800), (162381600, 25200), (183546000, 28800),
      (199274400, 25200), (215600400, 28800), (230724000, 25200), (247050000, 28800),
      (262778400, 25200), (278499600, 28800), (294228000, 25200), (309949200, 28800),
      (325677600, 25200), (341398800, 28800), (357127200, 25200), (372848400, 28800),
      (388576800, 25200), (404902800, 28800), (420026400, 25200), (436352400, 28800),
      (452080800, 25200), (467802000, 28800), (483530400, 25200), (499251600, 28800),
      (514980000, 25200), (530701200, 28800), (544615200, 25200), (562150800, 28800),
      (576064800, 25200), (594205200, 28800), (607514400, 25200), (625654800, 28800),
      (638964000, 25200), (657104400, 28800), (671018400, 25200), (688554000, 28800),
      (702468000, 25200), (720003600, 28800), (733917600, 25200), (752058000, 28800),
      (765367200, 25200), (783507600, 28800), (796816800, 25200), (814957200, 28800),
      (828871200, 25200), (846406800, 28800), (860320800, 25200), (877856400, 28800),
      (891770400, 25200), (909306000, 28800), (923220000, 25200), (941360400, 28800),
      (954669600, 25200), (972810000, 28800), (986119200, 25200), (1004259600, 28800),
      (1018173600, 25200), (1035709200, 28800), (1049623200, 25200), (1067158800, 28800),
      (1081072800, 25200), (1099213200, 28800), (1112522400, 25200), (1130662800, 28800),
      (1143972000, 25200), (1162112400, 28800)]
  yearly := some ⟨2007, ⟨3, 2, 36000, -25200⟩, ⟨11, 1, 32400, -28800⟩⟩

def paris : ZoneRules where
  first := 561
  changes := east [
      (1855958961, 0), (1689814800, 3600), (1680397200, 0), (1665363600, 3600), (1648342800, 0),
      (1635123600, 3600), (1616893200, 0), (1604278800, 3600), (1585443600, 0),
      (1574038800, 3600), (1552266000, 0), (1539997200, 3600), (1520557200, 0),
      (1507510800, 3600), (1490576400, 0), (1470618000, 3600), (1459126800, 0),
      (1444006800, 3600), (1427677200, 0), (1411952400, 3600), (1396227600, 0),
      (1379293200, 3600), (1364778000, 0), (1348448400, 3600), (1333328400, 0),
      (1316394000, 3600), (1301274000, 0), (1284339600, 3600), (1269824400, 0),
      (1253494800, 3600), (1238374800, 0), (1221440400, 3600), (1206925200, 0),
      (1191200400, 3600), (1175475600, 0), (1160355600, 3600), (1143421200, 0),
      (1127696400, 3600), (1111971600, 0), (1096851600, 3600), (1080522000, 0),
      (1063587600, 3600), (1049072400, 0), (1033347600, 3600), (1017622800, 0),
      (1002502800, 3600), (986173200, 0), (969238800, 3600), (950490000, 0), (942012000, 3600),
      (932436000, 7200), (857257200, 3600), (844556400, 7200), (828226800, 3600),
      (812502000, 7200), (796266000, 3600), (781052400, 7200), (766623600, 3600)] [
      (196819200, 7200), (212540400, 3600), (228877200, 7200), (243997200, 3600),
      (260326800, 7200), (276051600, 3600), (291776400, 7200), (307501200, 3600),
      (323830800, 7200), (338950800, 3600), (354675600, 7200), (370400400, 3600),
      (386125200, 7200), (401850000, 3600), (417574800, 7200), (433299600, 3600),
      (449024400, 7200), (465354000, 3600), (481078800, 7200), (496803600, 3600),
      (512528400, 7200), (528253200, 3600), (543978000, 7200), (559702800, 3600),
      (575427600, 7200), (591152400, 3600), (606877200, 7200), (622602000, 3600),
      (638326800, 7200), (654656400, 3600), (670381200, 7200), (686106000, 3600),
      (701830800, 7200), (717555600, 3600), (733280400, 7200), (749005200, 3600),
      (764730000, 7200), (780454800, 3600), (796179600, 7200), (811904400, 3600)]
  yearly := some ⟨1996, ⟨3, 5, 3600, 7200⟩, ⟨10, 5, 3600, 3600⟩⟩

def moscow : ZoneRules where
  first := 9017
  changes := east [
      (1688265017, 9079), (1656819079, 12679), (1641353479, 9079), (1627965079, 16279),
      (1618716679, 12679), (1596429079, 16279), (1593820800, 14400), (1589860800, 10800),
      (1542427200, 14400), (1539493200, 18000), (1525323600, 14400), (1522728000, 10800),
      (1491188400, 7200), (1247536800, 10800)] [
      (354920400, 14400), (370728000, 10800), (386456400, 14400), (402264000, 10800),
      (417992400, 14400), (433800000, 10800), (449614800, 14400), (465346800, 10800),
      (481071600, 14400), (496796400, 10800), (512521200, 14400), (528246000, 10800),
      (543970800, 14400), (559695600, 10800), (575420400, 14400), (591145200, 10800),
      (606870000, 14400), (622594800, 10800), (638319600, 14400), (654649200, 10800),
      (686102400, 7200), (695779200, 10800), (701823600, 14400), (717548400, 10800),
      (733273200, 14400), (748998000, 10800), (764722800, 14400), (780447600, 10800),
      (796172400, 14400), (811897200, 10800), (828226800, 14400), (846370800, 10800),
      (859676400, 14400), (877820400, 10800), (891126000, 14400), (909270000, 10800),
      (922575600, 14400), (941324400, 10800), (954025200, 14400), (972774000, 10800),
      (985474800, 14400), (1004223600, 10800), (1017529200, 14400), (1035673200, 10800),
      (1048978800, 14400), (1067122800, 10800), (1080428400, 14400), (1099177200, 10800),
      (1111878000, 14400), (1130626800, 10800), (1143327600, 14400), (1162076400, 10800),
      (1174777200, 14400), (1193526000, 10800), (1206831600, 14400), (1224975600, 10800),
      (1238281200, 14400), (1256425200, 10800), (1269730800, 14400), (1288479600, 10800),
      (1301180400, 14400), (1414274400, 10800)]
  yearly := none

def kiritimati : ZoneRules where
  first := -37760
  changes := west [
      (2177415040, 38400)] [
      (307622400, 36000)] ++
    east [] [
      (788868000, 50400)]
  yearly := none

def apia : ZoneRules where
  first := 45184
  changes := west [
      (2445424384, 41216), (1861878784, 41400), (631110600, 39600)] [
      (1285498800, 36000), (1301752800, 39600), (1316872800, 36000)] ++
    east [] [
      (1325239200, 50400), (1333202400, 46800), (1348927200, 50400), (1365256800, 46800),
      (1380376800, 50400), (1396706400, 46800), (1411826400, 50400), (1428156000, 46800),
      (1443276000, 50400), (1459605600, 46800), (1474725600, 50400), (1491055200, 46800),
      (1506175200, 50400), (1522504800, 46800), (1538229600, 50400), (1554559200, 46800),
      (1569679200, 50400), (1586008800, 46800), (1601128800, 50400), (1617458400, 46800)]
  yearly := none

def lordHowe : ZoneRules where
  first := 38180
  changes := east [
      (2364114980, 36000)] [
      (352216800, 37800), (372785400, 41400), (384273000, 37800), (404839800, 41400),
      (415722600, 37800), (436289400, 41400), (447172200, 37800), (467739000, 41400),
      (478621800, 37800), (499188600, 39600), (511282800, 37800), (530033400, 39600),
      (542732400, 37800), (562087800, 39600), (574786800, 37800), (594142200, 39600),
      (606236400, 37800), (625591800, 39600), (636476400, 37800), (657041400, 39600),
      (667926000, 37800), (688491000, 39600), (699375600, 37800), (719940600, 39600),
      (731430000, 37800), (751995000, 39600), (762879600, 37800), (783444600, 39600),
      (794329200, 37800), (814894200, 39600), (828198000, 37800), (846343800, 39600),
      (859647600, 37800), (877793400, 39600), (891097200, 37800), (909243000, 39600),
      (922546800, 37800), (941297400, 39600), (953996400, 37800), (967303800, 39600),
      (985446000, 37800), (1004196600, 39600), (1017500400, 37800), (1035646200, 39600),
      (1048950000, 37800), (1067095800, 39600), (1080399600, 37800), (1099150200, 39600),
      (1111849200, 37800), (1130599800, 39600), (1143903600, 37800), (1162049400, 39600),
      (1174748400, 37800), (1193499000, 39600)]
  yearly := some ⟨2008, ⟨4, 1, -32400, 37800⟩, ⟨10, 1, -30600, 39600⟩⟩

def zones : List Zone := [
  ⟨"UTC", .fixed 0⟩,
  ⟨"GMT", .fixed 0⟩,
  ⟨"US/Eastern", newYork⟩,
  ⟨"Asia/Seoul", seoul⟩,
  ⟨"Asia/Kolkata", kolkata⟩,
  ⟨"Asia/Kathmandu", kathmandu⟩,
  ⟨"America/New_York", newYork⟩,
  ⟨"America/St_Johns", stJohns⟩,
  ⟨"America/Los_Angeles", losAngeles⟩,
  ⟨"Europe/Paris", paris⟩,
  ⟨"Europe/Moscow", moscow⟩,
  ⟨"Pacific/Kiritimati", kiritimati⟩,
  ⟨"Pacific/Apia", apia⟩,
  ⟨"Australia/Lord_Howe", lordHowe⟩,
  ⟨"Etc/GMT+12", .fixed (-43200)⟩,
  ⟨"Etc/GMT-14", .fixed 50400⟩]

def named : KnownZones := fun name => zones.find? (fun z => z.name == name)

end ZoneTable

end LaneQuota
