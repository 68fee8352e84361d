/-
Further names of characters, by version 14.0 of the character database:
names of controls, abbreviations, and corrections of names that were given
wrongly. Consumed by `CharName.lean`, which says how a line is read.
-/
namespace Purity.Text.CharName

/-- The names, line by line. -/
def aliasText : String := "
0aNULLaSTART OF HEADINGcTEXTaEND OF TEXTcTRANSMISSIONaENQUIRYaACKNOWLEDGE
7aALERTaBACKSPACEaHORIZONTAL TABULATIONaEND OF LINEaVERTICAL TABULATION
CaFORM FEEDaCARRIAGE RETURNaLOCKING-SHIFT ONEcZEROaDATA LINK ESCAPE
11aDEVICE CONTROL ONEcTWOcTHREEcFOURaNEGATIVE ACKNOWLEDGEaSYNCHRONOUS IDLE
17aEND OF TRANSMISSION BLOCKaCANCELaEND OF MEDIUMaSUBSTITUTEaESCAPE
1CaINFORMATION SEPARATOR FOURcTHREEcTWOcONEaSP
7FaDELETEaPADDING CHARACTERaHIGH OCTET PRESETaBREAK PERMITTED HERE
83aNO BREAK HEREaINDEXaNEXT LINEaSTART OF SELECTED AREAaEND OF SELECTED AREA
88aHORIZONTAL TABULATION SETcWITH JUSTIFICATIONaVERTICAL TABULATION SET
8BaPARTIAL LINE FORWARDcBACKWARDaREVERSE LINE FEEDaSINGLE SHIFT TWOcTHREE
90aDEVICE CONTROL STRINGaPRIVATE USE ONEcTWOaSET TRANSMIT STATE
94aCANCEL CHARACTERaMESSAGE WAITINGaSTART OF PROTECTED AREA
97aEND OF PROTECTED AREAaSTART OF STRINGaSINGLE GRAPHIC CHARACTER INTRODUCER
9AaSINGLE CHARACTER INTRODUCERaCONTROL SEQUENCE INTRODUCERaSTRING TERMINATOR
9DaOPERATING SYSTEM COMMANDaPRIVACY MESSAGEaAPPLICATION PROGRAM COMMANDaNBSP
ADaSHY
1A2aLATIN CAPITAL LETTER GHAbSMALL LETTER GHA
34FaCGJ
61CaALM
709aSYRIAC SUBLINEAR COLON SKEWED LEFT
CDEaKANNADA LETTER LLLA
E9DaLAO LETTER FO FON
E9FaLAO LETTER FO FAY
EA3aLAO LETTER RO
EA5aLAO LETTER LO
FD0aTIBETAN MARK BKA- SHOG GI MGO RGYAN
11ECaHANGUL JONGSEONG YESIEUNG-KIYEOKdSSANGKIYEOKcSSANGYESIEUNG
11EFaHANGUL JONGSEONG YESIEUNG-KHIEUKH
180BaFVS1aFVS2aFVS3aMVSaFVS4
200BaZWSPaZWNJaZWJaLRMaRLM
202AaLREaRLEaPDFaLROaRLOaNNBSP
205FaMMSPaWJ
2066aLRIaRLIaFSIaPDI
2118aWEIERSTRASS ELLIPTIC FUNCTION
2448aMICR ON US SYMBOLbDASH SYMBOL
2B7AaLEFTWARDS TRIANGLE-HEADED ARROW WITH DOUBLE VERTICAL STROKE
2B7CaRIGHTWARDS TRIANGLE-HEADED ARROW WITH DOUBLE VERTICAL STROKE
A015aYI SYLLABLE ITERATION MARK
AA6EaMYANMAR LETTER KHAMTI LLA
FE00aVS1aVS2aVS3aVS4aVS5aVS6aVS7aVS8aVS9aVS10aVS11aVS12aVS13aVS14aVS15aVS16
FE18aPRESENTATION FORM FOR VERTICAL RIGHT WHITE LENTICULAR BRACKET
FEFFaBYTE ORDER MARK
122D4aCUNEIFORM SIGN NU11 TENUdOVER NU11 BUR OVER BUR
16E56aMEDEFAIDRIN CAPITAL LETTER HdNG
16E76aMEDEFAIDRIN SMALL LETTER HdNG
1B001aHENTAIGANA LETTER E-1
1D0C5aBYZANTINE MUSICAL SYMBOL FTHORA SKLIRON CHROMA VASIS
E0100aVS17aVS18aVS19aVS20aVS21aVS22aVS23aVS24aVS25aVS26aVS27aVS28aVS29aVS30
E010EaVS31aVS32aVS33aVS34aVS35aVS36aVS37aVS38aVS39aVS40aVS41aVS42aVS43aVS44
E011CaVS45aVS46aVS47aVS48aVS49aVS50aVS51aVS52aVS53aVS54aVS55aVS56aVS57aVS58
E012AaVS59aVS60aVS61aVS62aVS63aVS64aVS65aVS66aVS67aVS68aVS69aVS70aVS71aVS72
E0138aVS73aVS74aVS75aVS76aVS77aVS78aVS79aVS80aVS81aVS82aVS83aVS84aVS85aVS86
E0146aVS87aVS88aVS89aVS90aVS91aVS92aVS93aVS94aVS95aVS96aVS97aVS98aVS99aVS100
E0154aVS101aVS102aVS103aVS104aVS105aVS106aVS107aVS108aVS109aVS110aVS111aVS112
E0160aVS113aVS114aVS115aVS116aVS117aVS118aVS119aVS120aVS121aVS122aVS123aVS124
E016CaVS125aVS126aVS127aVS128aVS129aVS130aVS131aVS132aVS133aVS134aVS135aVS136
E0178aVS137aVS138aVS139aVS140aVS141aVS142aVS143aVS144aVS145aVS146aVS147aVS148
E0184aVS149aVS150aVS151aVS152aVS153aVS154aVS155aVS156aVS157aVS158aVS159aVS160
E0190aVS161aVS162aVS163aVS164aVS165aVS166aVS167aVS168aVS169aVS170aVS171aVS172
E019CaVS173aVS174aVS175aVS176aVS177aVS178aVS179aVS180aVS181aVS182aVS183aVS184
E01A8aVS185aVS186aVS187aVS188aVS189aVS190aVS191aVS192aVS193aVS194aVS195aVS196
E01B4aVS197aVS198aVS199aVS200aVS201aVS202aVS203aVS204aVS205aVS206aVS207aVS208
E01C0aVS209aVS210aVS211aVS212aVS213aVS214aVS215aVS216aVS217aVS218aVS219aVS220
E01CCaVS221aVS222aVS223aVS224aVS225aVS226aVS227aVS228aVS229aVS230aVS231aVS232
E01D8aVS233aVS234aVS235aVS236aVS237aVS238aVS239aVS240aVS241aVS242aVS243aVS244
E01E4aVS245aVS246aVS247aVS248aVS249aVS250aVS251aVS252aVS253aVS254aVS255aVS256
0aNULaSOHaSTXaETXaEOTaENQaACKaBELaBSaCHARACTER TABULATIONaLINE FEEDbTABULATION
CaFFaCRaSHIFT OUTbINaDLEaDC1aDC2aDC3aDC4aNAKaSYNaETBaCANaEOMaSUBaESC
1CaFILE SEPARATORaGROUP SEPARATORaRECORD SEPARATORaUNIT SEPARATOR
7FaDELaPADaHOPaBPHaNBHaINDaNELaSSAaESAaCHARACTER TABULATION SET
89aCHARACTER TABULATION WITH JUSTIFICATIONaLINE TABULATION SET
8BaPARTIAL LINE DOWNcUPaREVERSE INDEXaSINGLE-SHIFT-2c3aDCSaPRIVATE USE-1c2aSTS
94aCCHaMWaSTART OF GUARDED AREAaEND OF GUARDED AREAaSOSaSGCaSCIaCSIaSTaOSCaPM
9FaAPC
FEFFaZWNBSP
9aTABaNEW LINEaVT
EaSOaSI
1CaFSaGSaRSaUS
88aHTSaHTJaVTSaPLDaPLUaRIaSS2aSS3
91aPU1aPU2
96aSPAaEPA
FEFFaBOM
9aHTaEOL
AaLF
AaNL"

end Purity.Text.CharName
