/-
Names of the characters with code points from 10000 on, in hexadecimal, by
version 14.0 of the character database. Ideographs and Hangul syllables
are left out: their names follow a rule. Consumed by `CharName.lean`, which
says how a line is read.
-/
namespace Purity.Text.CharName

/-- The names, line by line. -/
def upperText : String := "
10000aLINEAR B SYLLABLE B008 AdB038 EdB028 IdB061 OdB010 UdB001 DAdB045 DE
10007aLINEAR B SYLLABLE B007 DIdB014 DOdB051 DUdB057 JAdB046 JE
1000DaLINEAR B SYLLABLE B036 JOdB065 JUdB077 KAdB044 KEdB067 KIdB070 KO
10013aLINEAR B SYLLABLE B081 KUdB080 MAdB013 MEdB073 MIdB015 MOdB023 MU
10019aLINEAR B SYLLABLE B006 NAdB024 NEdB030 NIdB052 NOdB055 NUdB003 PA
1001FaLINEAR B SYLLABLE B072 PEdB039 PIdB011 POdB050 PUdB016 QAdB078 QE
10025aLINEAR B SYLLABLE B021 QIdB032 QO
10028aLINEAR B SYLLABLE B060 RAdB027 REdB053 RIdB002 ROdB026 RUdB031 SA
1002EaLINEAR B SYLLABLE B009 SEdB041 SIdB012 SOdB058 SUdB059 TAdB004 TE
10034aLINEAR B SYLLABLE B037 TIdB005 TOdB069 TUdB054 WAdB075 WEdB040 WI
1003AaLINEAR B SYLLABLE B042 WO
1003CaLINEAR B SYLLABLE B017 ZAdB074 ZE
1003FaLINEAR B SYLLABLE B020 ZOdB025 A2dB043 A3dB085 AUdB071 DWEdB090 DWO
10045aLINEAR B SYLLABLE B048 NWAdB029 PU2dB062 PTEdB076 RA2dB033 RA3dB068 RO2
1004BaLINEAR B SYLLABLE B066 TA2dB087 TWEdB091 TWO
10050aLINEAR B SYMBOL B018dB019dB022dB034dB047dB049dB056dB063dB064dB079dB082
1005BaLINEAR B SYMBOL B083dB086dB089
10080aLINEAR B IDEOGRAM B100 MANdB102 WOMANdB104 DEERdB105 EQUIDdB105F MARE
10085aLINEAR B IDEOGRAM B105M STALLIONdB106F EWEdB106M RAMdB107F SHE-GOAT
10089aLINEAR B IDEOGRAM B107M HE-GOATdB108F SOWdB108M BOARdB109F COW
1008DaLINEAR B IDEOGRAM B109M BULLdB120 WHEATdB121 BARLEYdB122 OLIVE
10091aLINEAR B IDEOGRAM B123 SPICEdB125 CYPERUScMONOGRAM B127 KAPOdB128 KANAKO
10095aLINEAR B IDEOGRAM B130 OILdB131 WINEdB132cMONOGRAM B133 AREPAdB135 MERI
1009AaLINEAR B IDEOGRAM B140 BRONZEdB141 GOLDdB142dB145 WOOLdB146dB150
100A0aLINEAR B IDEOGRAM B151 HORNdB152dB153dB154cMONOGRAM B156 TURO2
100A5aLINEAR B IDEOGRAM B157dB158dB159 CLOTHdB160dB161dB162 GARMENT
100ABaLINEAR B IDEOGRAM B163 ARMOURdB164dB165dB166dB167dB168dB169dB170dB171
100B4aLINEAR B IDEOGRAM B172dB173 MONTHdB174dB176 TREEdB177dB178dB179dB180
100BCaLINEAR B IDEOGRAM B181dB182dB183dB184dB185dB189dB190dB191 HELMET
100C4aLINEAR B IDEOGRAM B220 FOOTSTOOLdB225 BATHTUBdB230 SPEARdB231 ARROWdB232
100C9aLINEAR B IDEOGRAM B233 SWORDdB234dB236dB240 WHEELED CHARIOTdB241 CHARIOT
100CEaLINEAR B IDEOGRAM B242 CHARIOT FRAMEdB243 WHEELdB245dB246
100D2aLINEAR B MONOGRAM B247 DIPTEcIDEOGRAM B248dB249dB251dB252dB253dB254 DART
100D9aLINEAR B IDEOGRAM B255dB256dB257dB258dB259dVESSEL B155eB200eB201eB202
100E2aLINEAR B IDEOGRAM VESSEL B203eB204eB205eB206eB207eB208eB209eB210eB211
100EBaLINEAR B IDEOGRAM VESSEL B212eB213eB214eB215eB216eB217eB218eB219eB221
100F4aLINEAR B IDEOGRAM VESSEL B222eB226eB227eB228eB229eB250eB305
10100aAEGEAN WORD SEPARATOR LINEdDOTbCHECK MARK
10107aAEGEAN NUMBER ONEcTWOcTHREEcFOURcFIVEcSIXcSEVENcEIGHTcNINEcTENcTWENTY
10112aAEGEAN NUMBER THIRTYcFORTYcFIFTYcSIXTYcSEVENTYcEIGHTYcNINETYcONE HUNDRED
1011AaAEGEAN NUMBER TWO HUNDREDcTHREE HUNDREDcFOUR HUNDREDcFIVE HUNDRED
1011EaAEGEAN NUMBER SIX HUNDREDcSEVEN HUNDREDcEIGHT HUNDREDcNINE HUNDRED
10122aAEGEAN NUMBER ONE THOUSANDcTWO THOUSANDcTHREE THOUSANDcFOUR THOUSAND
10126aAEGEAN NUMBER FIVE THOUSANDcSIX THOUSANDcSEVEN THOUSANDcEIGHT THOUSAND
1012AaAEGEAN NUMBER NINE THOUSANDcTEN THOUSANDcTWENTY THOUSANDcTHIRTY THOUSAND
1012EaAEGEAN NUMBER FORTY THOUSANDcFIFTY THOUSANDcSIXTY THOUSAND
10131aAEGEAN NUMBER SEVENTY THOUSANDcEIGHTY THOUSANDcNINETY THOUSAND
10137aAEGEAN WEIGHT BASE UNITcFIRST SUBUNITcSECOND SUBUNITcTHIRD SUBUNIT
1013BaAEGEAN WEIGHT FOURTH SUBUNITbDRY MEASURE FIRST SUBUNIT
1013DaAEGEAN LIQUID MEASURE FIRST SUBUNITbMEASURE SECOND SUBUNITcTHIRD SUBUNIT
10140aGREEK ACROPHONIC ATTIC ONE QUARTEReHALFeDRACHMAdFIVEdFIFTYdFIVE HUNDRED
10146aGREEK ACROPHONIC ATTIC FIVE THOUSANDdFIFTY THOUSANDdFIVE TALENTS
10149aGREEK ACROPHONIC ATTIC TEN TALENTSdFIFTY TALENTSdONE HUNDRED TALENTS
1014CaGREEK ACROPHONIC ATTIC FIVE HUNDRED TALENTSdONE THOUSAND TALENTS
1014EaGREEK ACROPHONIC ATTIC FIVE THOUSAND TALENTSeSTATERSdTEN STATERS
10151aGREEK ACROPHONIC ATTIC FIFTY STATERSdONE HUNDRED STATERS
10153aGREEK ACROPHONIC ATTIC FIVE HUNDRED STATERSdONE THOUSAND STATERS
10155aGREEK ACROPHONIC ATTIC TEN THOUSAND STATERSdFIFTY THOUSAND STATERS
10157aGREEK ACROPHONIC ATTIC TEN MNAScHERAEUM ONE PLETHRONcTHESPIAN ONE
1015AaGREEK ACROPHONIC HERMIONIAN ONEcEPIDAUREAN TWOcTHESPIAN TWO
1015DaGREEK ACROPHONIC CYRENAIC TWO DRACHMAScEPIDAUREAN TWO DRACHMAS
1015FaGREEK ACROPHONIC TROEZENIAN FIVEdTENe ALTERNATE FORMcHERMIONIAN TEN
10163aGREEK ACROPHONIC MESSENIAN TENcTHESPIAN TENdTHIRTYcTROEZENIAN FIFTY
10167aGREEK ACROPHONIC TROEZENIAN FIFTY ALTERNATE FORMcHERMIONIAN FIFTY
10169aGREEK ACROPHONIC THESPIAN FIFTYdONE HUNDREDdTHREE HUNDRED
1016CaGREEK ACROPHONIC EPIDAUREAN FIVE HUNDREDcTROEZENIAN FIVE HUNDRED
1016EaGREEK ACROPHONIC THESPIAN FIVE HUNDREDcCARYSTIAN FIVE HUNDRED
10170aGREEK ACROPHONIC NAXIAN FIVE HUNDREDcTHESPIAN ONE THOUSANDdFIVE THOUSAND
10173aGREEK ACROPHONIC DELPHIC FIVE MNAScSTRATIAN FIFTY MNASbONE HALF SIGN
10176aGREEK ONE HALF SIGN ALTERNATE FORMbTWO THIRDS SIGNbTHREE QUARTERS SIGN
10179aGREEK YEAR SIGNbTALENT SIGNbDRACHMA SIGNbOBOL SIGNbTWO OBOLS SIGN
1017EaGREEK THREE OBOLS SIGNbFOUR OBOLS SIGNbFIVE OBOLS SIGNbMETRETES SIGN
10182aGREEK KYATHOS BASE SIGNbLITRA SIGNbOUNKIA SIGNbXESTES SIGNbARTABE SIGN
10187aGREEK AROURA SIGNbGRAMMA SIGNbTRYBLION BASE SIGNbZERO SIGN
1018BaGREEK ONE QUARTER SIGNbSINUSOID SIGNbINDICTION SIGNaNOMISMA SIGN
10190aROMAN SEXTANS SIGNbUNCIA SIGNbSEMUNCIA SIGNbSEXTULA SIGN
10194aROMAN DIMIDIA SEXTULA SIGNbSILIQUA SIGNbDENARIUS SIGNbQUINARIUS SIGN
10198aROMAN SESTERTIUS SIGNbDUPONDIUS SIGNbAS SIGNbCENTURIAL SIGNaASCIA SYMBOL
101A0aGREEK SYMBOL TAU RHO
101D0aPHAISTOS DISC SIGN PEDESTRIANdPLUMED HEADdTATTOOED HEADdCAPTIVEdCHILD
101D5aPHAISTOS DISC SIGN WOMANdHELMETdGAUNTLETdTIARAdARROWdBOWdSHIELDdCLUB
101DDaPHAISTOS DISC SIGN MANACLESdMATTOCKdSAWdLIDdBOOMERANGdCARPENTRY PLANE
101E3aPHAISTOS DISC SIGN DOLIUMdCOMBdSLINGdCOLUMNdBEEHIVEdSHIPdHORNdHIDE
101EBaPHAISTOS DISC SIGN BULLS LEGdCATdRAMdEAGLEdDOVEdTUNNYdBEEdPLANE TREE
101F3aPHAISTOS DISC SIGN VINEdPAPYRUSdROSETTEdLILYdOX BACKdFLUTEdGRATER
101FAaPHAISTOS DISC SIGN STRAINERdSMALL AXEdWAVY BANDdCOMBINING OBLIQUE STROKE
10280aLYCIAN LETTER AcEcBdHcGcDcIcWcZcTHcJcKcQcLcMcNcMMcNNcUcPcKKcRcScTdTcAN
1029AaLYCIAN LETTER ENcHcX
102A0aCARIAN LETTER AcP2cDcLcUUUcRcLDcA2cQcBcMcOcD2cTcSHd2cScC-18cUcNNcXcNcTT2
102B7aCARIAN LETTER PcSScIcEcUUUUcKd2cNDcUUcGd2cSTd2cNGcIIcC-39cTTcUUU2cRRcMB
102CBaCARIAN LETTER MB2cMB3cMB4cLD2cE2cUUU3
102E0aCOPTIC EPACT THOUSANDS MARKcDIGIT ONEdTWOdTHREEdFOURdFIVEdSIXdSEVEN
102E8aCOPTIC EPACT DIGIT EIGHTdNINEcNUMBER TENdTWENTYdTHIRTYdFORTYdFIFTYdSIXTY
102F0aCOPTIC EPACT NUMBER SEVENTYdEIGHTYdNINETYdONE HUNDREDdTWO HUNDRED
102F5aCOPTIC EPACT NUMBER THREE HUNDREDdFOUR HUNDREDdFIVE HUNDREDdSIX HUNDRED
102F9aCOPTIC EPACT NUMBER SEVEN HUNDREDdEIGHT HUNDREDdNINE HUNDRED
10300aOLD ITALIC LETTER AdBEdKEdDEdEdVEdZEdHEdTHEdIdKAdELdEMdENdESHdOdPEdSHE
10312aOLD ITALIC LETTER KUdERdESdTEdUdEKSdPHEdKHEdEFdERSdCHEdIIdUUdESS
10320aOLD ITALIC NUMERAL ONEdFIVEdTENdFIFTY
1032DaOLD ITALIC LETTER YEdNORTHERN TSEdSOUTHERN TSEaGOTHIC LETTER AHSA
10331aGOTHIC LETTER BAIRKANcGIBAcDAGScAIHVUScQAIRTHRAcIUJAcHAGLcTHIUTHcEIS
1033AaGOTHIC LETTER KUSMAcLAGUScMANNAcNAUTHScJERcURUScPAIRTHRAcNINETYcRAIDA
10343aGOTHIC LETTER SAUILcTEIWScWINJAcFAIHUcIGGWScHWAIRcOTHALcNINE HUNDRED
10350aOLD PERMIC LETTER ANdBURdGAIdDOIdEdZHOIdDZHOIdZATAdDZITAdIdKOKEdLEI
1035CaOLD PERMIC LETTER MENOEdNENOEdVOOIdPEEIdREIdSIIdTAIdUdCHERYdSHOOI
10366aOLD PERMIC LETTER SHCHOOIdYRYdYERUdOeOdEFdHAdTSIUdVERdYEReIdYATdIEdYUdYA
10375aOLD PERMIC LETTER IAaCOMBINING OLD PERMIC LETTER ANeDOIeZATAeNENOEeSII
10380aUGARITIC LETTER ALPAcBETAcGAMLAcKHAcDELTAcHOcWOcZETAcHOTAcTETcYODcKAF
1038CaUGARITIC LETTER SHINcLAMDAcMEMcDHALcNUNcZUcSAMKAcAINcPUcSADEcQOPAcRASHA
10398aUGARITIC LETTER THANNAcGHAINcTOcIcUcSSU
1039FaUGARITIC WORD DIVIDERaOLD PERSIAN SIGN AdIdUdKAdKUdGAdGUdXAdCAdJAdJIdTA
103ACaOLD PERSIAN SIGN TUdDAdDIdDUdTHAdPAdBAdFAdNAdNUdMAdMIdMUdYAdVAdVIdRAdRU
103BEaOLD PERSIAN SIGN LAdSAdZAdSHAdSSAdHA
103C8aOLD PERSIAN SIGN AURAMAZDAAe-2dAURAMAZDAAHAdXSHAAYATHIYAdDAHYAAUSHe-2
103CEaOLD PERSIAN SIGN BAGAdBUUMISHcWORD DIVIDERcNUMBER ONEdTWOdTENdTWENTY
103D5aOLD PERSIAN NUMBER HUNDRED
10400aDESERET CAPITAL LETTER LONG IeEeAfHeOfOdSHORT IeEeAfHeOfOdAYdOWdWUdYEEdH
10411aDESERET CAPITAL LETTER PEEdBEEdTEEdDEEdCHEEdJEEdKAYdGAYdEFdVEEdETHdTHEE
1041DaDESERET CAPITAL LETTER ESdZEEdESHdZHEEdERdELdEMdENeGdOIdEW
10428aDESERET SMALL LETTER LONG IeEeAfHeOfOdSHORT IeEeAfHeOfOdAYdOWdWUdYEEdH
10439aDESERET SMALL LETTER PEEdBEEdTEEdDEEdCHEEdJEEdKAYdGAYdEFdVEEdETHdTHEEdES
10446aDESERET SMALL LETTER ZEEdESHdZHEEdERdELdEMdENeGdOIdEW
10450aSHAVIAN LETTER PEEPcTOTcKICKcFEEcTHIGHcSOcSUREcCHURCHcYEAcHUNGcBIBcDEAD
1045CaSHAVIAN LETTER GAGcVOWcTHEYcZOOcMEASUREcJUDGEcWOEcHA-HAcLOLLcMIMEcIFcEGG
10468aSHAVIAN LETTER ASHcADOcONcWOOLcOUTcAHcROARcNUNcEATcAGEcICEcUPcOAKcOOZE
10476aSHAVIAN LETTER OILcAWEcAREcORcAIRcERRcARRAYcEARcIANcYEW
10480aOSMANYA LETTER ALEFcBAcTAcJAcXAcKHAcDEELcRAcSAcSHIINcDHAcCAYNcGAcFAcQAAF
1048FaOSMANYA LETTER KAAFcLAANcMIINcNUUNcWAWcHAcYAcAcEcIcOcUcAAcEEcOO
104A0aOSMANYA DIGIT ZEROcONEcTWOcTHREEcFOURcFIVEcSIXcSEVENcEIGHTcNINE
104B0aOSAGE CAPITAL LETTER AeIeNdAHdBRAdCHAdEHCHAdEeINdHAdHYAdIdKAdEHKAdKYAdLA
104C0aOSAGE CAPITAL LETTER MAdNAdOeINdPAdEHPAdSAdSHAdTAdEHTAdTSAdEHTSAdTSHA
104CDaOSAGE CAPITAL LETTER DHAdUdWAdKHAdGHAdZAdZHA
104D8aOSAGE SMALL LETTER AeIeNdAHdBRAdCHAdEHCHAdEeINdHAdHYAdIdKAdEHKAdKYAdLA
104E8aOSAGE SMALL LETTER MAdNAdOeINdPAdEHPAdSAdSHAdTAdEHTAdTSAdEHTSAdTSHAdDHA
104F6aOSAGE SMALL LETTER UdWAdKHAdGHAdZAdZHA
10500aELBASAN LETTER AcBEcCEcCHEcDEcNDEcDHEcEIcEcFEcGEcGJEcHEcIcJEcKEcLEcLLE
10512aELBASAN LETTER MEcNEcNAcNJEcOcPEcQEcREcRREcSEcSHEcTEcTHEcUcVEcXEcYcZE
10524aELBASAN LETTER ZHEcGHEcGHAMMAcKHE
10530aCAUCASIAN ALBANIAN LETTER ALTdBETdGIMdDATdEBdZARLdEYNdZHILdTASdCHAdYOWD
1053BaCAUCASIAN ALBANIAN LETTER ZHAdIRBdSHAdLANdINYAdXEYNdDYANdCARdJHOXdKAR
10545aCAUCASIAN ALBANIAN LETTER LYITdHEYTdQAYdAORdCHOYdCHIdCYAYdMAQdQARdNOWC
1054FaCAUCASIAN ALBANIAN LETTER DZYAYdSHAKdJAYNdONdTYAYdFAMdDZAYdCHATdPEN
10558aCAUCASIAN ALBANIAN LETTER GHEYSdRATdSEYKdVEYZdTIWRdSHOYdIWNdCYAWdCAYN
10561aCAUCASIAN ALBANIAN LETTER YAYDdPIWRdKIW
1056FaCAUCASIAN ALBANIAN CITATION MARKaVITHKUQI CAPITAL LETTER AdBBEdBEdCEdCHE
10575aVITHKUQI CAPITAL LETTER DEdDHEdEIdEdFEdGA
1057CaVITHKUQI CAPITAL LETTER HAdHHAdIeJEdJEdKAdLAdLLAdMEdNEdNJEdOdPEdQAdRE
1058CaVITHKUQI CAPITAL LETTER SEdSHEdTEdTHEdUdVEdXE
10594aVITHKUQI CAPITAL LETTER YdZE
10597aVITHKUQI SMALL LETTER AdBBEdBEdCEdCHEdDEdDHEdEIdEdFEdGA
105A3aVITHKUQI SMALL LETTER HAdHHAdIeJEdJEdKAdLAdLLAdMEdNEdNJEdOdPEdQAdRE
105B3aVITHKUQI SMALL LETTER SEdSHEdTEdTHEdUdVEdXE
105BBaVITHKUQI SMALL LETTER YdZE
10600aLINEAR A SIGN AB001dAB002dAB003dAB004dAB005dAB006dAB007dAB008dAB009
10609aLINEAR A SIGN AB010dAB011dAB013dAB016dAB017dAB020dAB021eFdAB021MdAB022eF
10614aLINEAR A SIGN AB022MdAB023eMdAB024dAB026dAB027dAB028dA028BdAB029dAB030
1061EaLINEAR A SIGN AB031dAB034dAB037dAB038dAB039dAB040dAB041dAB044dAB045
10627aLINEAR A SIGN AB046dAB047dAB048dAB049dAB050dAB051dAB053dAB054dAB055
10630aLINEAR A SIGN AB056dAB057dAB058dAB059dAB060dAB061dAB065dAB066dAB067
10639aLINEAR A SIGN AB069dAB070dAB073dAB074dAB076dAB077dAB078dAB079dAB080
10642aLINEAR A SIGN AB081dAB082dAB085dAB086dAB087dA100-102dAB118dAB120dA120B
1064BaLINEAR A SIGN AB122dAB123dAB131AdAB131BdA131CdAB164dAB171dAB180dAB188
10654aLINEAR A SIGN AB191dA301dA302dA303dA304dA305dA306dA307dA308dA309AdA309B
1065FaLINEAR A SIGN A309CdA310dA311dA312dA313AdA313BdA313CdA314dA315dA316dA317
1066AaLINEAR A SIGN A318dA319dA320dA321dA322dA323dA324dA325dA326dA327dA328
10675aLINEAR A SIGN A329dA330dA331dA332dA333dA334dA335dA336dA337dA338dA339
10680aLINEAR A SIGN A340dA341dA342dA343dA344dA345dA346dA347dA348dA349dA350
1068BaLINEAR A SIGN A351dA352dA353dA354dA355dA356dA357dA358dA359dA360dA361
10696aLINEAR A SIGN A362dA363dA364dA365dA366dA367dA368dA369dA370dA371dA400-VAS
106A1aLINEAR A SIGN A401-VASdA402-VASdA403-VASdA404-VASdA405-VASdA406-VAS
106A7aLINEAR A SIGN A407-VASdA408-VASdA409-VASdA410-VASdA411-VASdA412-VAS
106ADaLINEAR A SIGN A413-VASdA414-VASdA415-VASdA416-VASdA417-VASdA418-VASdA501
106B4aLINEAR A SIGN A502dA503dA504dA505dA506dA508dA509dA510dA511dA512dA513
106BFaLINEAR A SIGN A515dA516dA520dA521dA523dA524dA525dA526dA527dA528dA529
106CAaLINEAR A SIGN A530dA531dA532dA534dA535dA536dA537dA538dA539dA540dA541
106D5aLINEAR A SIGN A542dA545dA547dA548dA549dA550dA551dA552dA553dA554dA555
106E0aLINEAR A SIGN A556dA557dA559dA563dA564dA565dA566dA568dA569dA570dA571
106EBaLINEAR A SIGN A572dA573dA574dA575dA576dA577dA578dA579dA580dA581dA582
106F6aLINEAR A SIGN A583dA584dA585dA586dA587dA588dA589dA591dA592dA594dA595
10701aLINEAR A SIGN A596dA598dA600dA601dA602dA603dA604dA606dA608dA609dA610
1070CaLINEAR A SIGN A611dA612dA613dA614dA615dA616dA617dA618dA619dA620dA621
10717aLINEAR A SIGN A622dA623dA624dA626dA627dA628dA629dA634dA637dA638dA640
10722aLINEAR A SIGN A642dA643dA644dA645dA646dA648dA649dA651dA652dA653dA654
1072DaLINEAR A SIGN A655dA656dA657dA658dA659dA660dA661dA662dA663dA664
10740aLINEAR A SIGN A701 AdA702 BdA703 DdA704 EdA705 FdA706 HdA707 JdA708 K
10748aLINEAR A SIGN A709 LdA709-2 L2e3 L3e4 L4e6 L6dA710 WdA711 XdA712 Y
10750aLINEAR A SIGN A713 OMEGAdA714 ABBdA715 BBdA717 DDdA726 EYYYdA732 JE
10760aLINEAR A SIGN A800dA801dA802dA803dA804dA805dA806dA807
10780aMODIFIER LETTER SMALL CAPITAL AAcSUPERSCRIPT TRIANGULAR COLON
10782aMODIFIER LETTER SUPERSCRIPT HALF TRIANGULAR COLONcSMALL AEdCAPITAL B
10785aMODIFIER LETTER SMALL B WITH HOOK
10787aMODIFIER LETTER SMALL DZ DIGRAPHf WITH RETROFLEX HOOKgCURLdDEZH DIGRAPH
1078BaMODIFIER LETTER SMALL D WITH TAILfHOOKg AND TAILdREVERSED E
1078FaMODIFIER LETTER SMALL CLOSED REVERSED OPEN EdFENG DIGRAPHdRAMS HORN
10792aMODIFIER LETTER SMALL CAPITAL GdG WITH HOOKdCAPITAL G WITH HOOK
10795aMODIFIER LETTER SMALL H WITH STROKEdCAPITAL HdHENG WITH HOOK
10798aMODIFIER LETTER SMALL DOTLESS J WITH STROKE AND HOOKdLS DIGRAPH
1079AaMODIFIER LETTER SMALL LZ DIGRAPHdL WITH BELTdCAPITAL L WITH BELT
1079DaMODIFIER LETTER SMALL L WITH RETROFLEX HOOK AND BELTdLEZH
1079FaMODIFIER LETTER SMALL LEZH WITH RETROFLEX HOOKdTURNED Yf WITH BELT
107A2aMODIFIER LETTER SMALL O WITH STROKEdCAPITAL OEdCLOSED OMEGAdQ
107A6aMODIFIER LETTER SMALL TURNED R WITH LONG LEGi AND RETROFLEX HOOK
107A8aMODIFIER LETTER SMALL R WITH TAILfFISHHOOKdCAPITAL R
107ABaMODIFIER LETTER SMALL TC DIGRAPH WITH CURLdTS DIGRAPH
107ADaMODIFIER LETTER SMALL TS DIGRAPH WITH RETROFLEX HOOKdTESH DIGRAPH
107AFaMODIFIER LETTER SMALL T WITH RETROFLEX HOOKdV WITH RIGHT HOOK
107B2aMODIFIER LETTER SMALL CAPITAL YcGLOTTAL STOP WITH STROKE
107B4aMODIFIER LETTER REVERSED GLOTTAL STOP WITH STROKEcBILABIAL CLICK
107B6aMODIFIER LETTER DENTAL CLICKcLATERAL CLICKcALVEOLAR CLICK
107B9aMODIFIER LETTER RETROFLEX CLICK WITH RETROFLEX HOOKcSMALL S WITH CURL
10800aCYPRIOT SYLLABLE AcEcIcOcUcJA
10808aCYPRIOT SYLLABLE JO
1080AaCYPRIOT SYLLABLE KAcKEcKIcKOcKUcLAcLEcLIcLOcLUcMAcMEcMIcMOcMUcNAcNEcNI
1081CaCYPRIOT SYLLABLE NOcNUcPAcPEcPIcPOcPUcRAcREcRIcROcRUcSAcSEcSIcSOcSUcTA
1082EaCYPRIOT SYLLABLE TEcTIcTOcTUcWAcWEcWIcWO
10837aCYPRIOT SYLLABLE XAcXE
1083CaCYPRIOT SYLLABLE ZA
1083FaCYPRIOT SYLLABLE ZOaIMPERIAL ARAMAIC LETTER ALEPHdBETHdGIMELdDALETHdHE
10845aIMPERIAL ARAMAIC LETTER WAWdZAYINdHETHdTETHdYODHdKAPHdLAMEDHdMEMdNUN
1084EaIMPERIAL ARAMAIC LETTER SAMEKHdAYINdPEdSADHEdQOPHdRESHdSHINdTAW
10857aIMPERIAL ARAMAIC SECTION SIGNcNUMBER ONEdTWOdTHREEdTENdTWENTY
1085DaIMPERIAL ARAMAIC NUMBER ONE HUNDREDeTHOUSANDdTEN THOUSAND
10860aPALMYRENE LETTER ALEPHcBETHcGIMELcDALETHcHEcWAWcZAYINcHETHcTETHcYODH
1086AaPALMYRENE LETTER KAPHcLAMEDHcMEMcFINAL NUNcNUNcSAMEKHcAYINcPEcSADHEcQOPH
10874aPALMYRENE LETTER RESHcSHINcTAWbLEFT-POINTING FLEURON
10878aPALMYRENE RIGHT-POINTING FLEURONbNUMBER ONEcTWOcTHREEcFOURcFIVEcTEN
1087FaPALMYRENE NUMBER TWENTYaNABATAEAN LETTER FINAL ALEPHcALEPHcFINAL BETH
10883aNABATAEAN LETTER BETHcGIMELcDALETHcFINAL HEcHEcWAWcZAYINcHETHcTETH
1088CaNABATAEAN LETTER FINAL YODHcYODHcFINAL KAPHcKAPHcFINAL LAMEDHcLAMEDH
10892aNABATAEAN LETTER FINAL MEMcMEMcFINAL NUNcNUNcSAMEKHcAYINcPEcSADHEcQOPH
1089BaNABATAEAN LETTER RESHcFINAL SHINcSHINcTAW
108A7aNABATAEAN NUMBER ONEcTWOcTHREEcFOURbCRUCIFORM NUMBER FOURbNUMBER FIVE
108ADaNABATAEAN NUMBER TENcTWENTYcONE HUNDRED
108E0aHATRAN LETTER ALEPHcBETHcGIMELcDALETH-RESHcHEcWAWcZAYNcHETHcTETHcYODH
108EAaHATRAN LETTER KAPHcLAMEDHcMEMcNUNcSAMEKHcAYNcPEcSADHEcQOPH
108F4aHATRAN LETTER SHINcTAW
108FBaHATRAN NUMBER ONEcFIVEcTENcTWENTYcONE HUNDREDaPHOENICIAN LETTER ALFcBET
10902aPHOENICIAN LETTER GAMLcDELTcHEcWAUcZAIcHETcTETcYODcKAFcLAMDcMEMcNUNcSEMK
1090FaPHOENICIAN LETTER AINcPEcSADEcQOFcROSHcSHINcTAUbNUMBER ONEcTENcTWENTY
10919aPHOENICIAN NUMBER ONE HUNDREDcTWOcTHREE
1091FaPHOENICIAN WORD SEPARATORaLYDIAN LETTER AcBcGcDcEcVcIcYcKcLcMcNcOcRcSScT
10930aLYDIAN LETTER UcFcQcScTTcANcENcLYcNNcC
1093FaLYDIAN TRIANGULAR MARK
10980aMEROITIC HIEROGLYPHIC LETTER AdEdIdOdYAdWAdBAe-2dPAdMAdNAe-2dNEe-2dRAe-2
10990aMEROITIC HIEROGLYPHIC LETTER LAdKHAdHHAdSAe-2dSEdKAdQAdTAe-2dTEe-2dTOdDA
1099EaMEROITIC HIEROGLYPHIC SYMBOL VIDJe-2bCURSIVE LETTER AdEdIdOdYAdWAdBAdPA
109A8aMEROITIC CURSIVE LETTER MAdNAdNEdRAdLAdKHAdHHAdSAdARCHAIC SAdSEdKAdQAdTA
109B5aMEROITIC CURSIVE LETTER TEdTOdDA
109BCaMEROITIC CURSIVE FRACTION ELEVEN TWELFTHSdONE HALFcLOGOGRAM RMTdIMN
109C0aMEROITIC CURSIVE NUMBER ONEdTWOdTHREEdFOURdFIVEdSIXdSEVENdEIGHTdNINEdTEN
109CAaMEROITIC CURSIVE NUMBER TWENTYdTHIRTYdFORTYdFIFTYdSIXTYdSEVENTY
109D2aMEROITIC CURSIVE NUMBER ONE HUNDREDdTWO HUNDREDdTHREE HUNDRED
109D5aMEROITIC CURSIVE NUMBER FOUR HUNDREDdFIVE HUNDREDdSIX HUNDRED
109D8aMEROITIC CURSIVE NUMBER SEVEN HUNDREDdEIGHT HUNDREDdNINE HUNDRED
109DBaMEROITIC CURSIVE NUMBER ONE THOUSANDdTWO THOUSANDdTHREE THOUSAND
109DEaMEROITIC CURSIVE NUMBER FOUR THOUSANDdFIVE THOUSANDdSIX THOUSAND
109E1aMEROITIC CURSIVE NUMBER SEVEN THOUSANDdEIGHT THOUSANDdNINE THOUSAND
109E4aMEROITIC CURSIVE NUMBER TEN THOUSANDdTWENTY THOUSANDdTHIRTY THOUSAND
109E7aMEROITIC CURSIVE NUMBER FORTY THOUSANDdFIFTY THOUSANDdSIXTY THOUSAND
109EAaMEROITIC CURSIVE NUMBER SEVENTY THOUSANDdEIGHTY THOUSANDdNINETY THOUSAND
109EDaMEROITIC CURSIVE NUMBER ONE HUNDRED THOUSANDdTWO HUNDRED THOUSAND
109EFaMEROITIC CURSIVE NUMBER THREE HUNDRED THOUSANDdFOUR HUNDRED THOUSAND
109F1aMEROITIC CURSIVE NUMBER FIVE HUNDRED THOUSANDdSIX HUNDRED THOUSAND
109F3aMEROITIC CURSIVE NUMBER SEVEN HUNDRED THOUSANDdEIGHT HUNDRED THOUSAND
109F5aMEROITIC CURSIVE NUMBER NINE HUNDRED THOUSANDcFRACTION ONE TWELFTH
109F7aMEROITIC CURSIVE FRACTION TWO TWELFTHSdTHREE TWELFTHSdFOUR TWELFTHS
109FAaMEROITIC CURSIVE FRACTION FIVE TWELFTHSdSIX TWELFTHSdSEVEN TWELFTHS
109FDaMEROITIC CURSIVE FRACTION EIGHT TWELFTHSdNINE TWELFTHSdTEN TWELFTHS
10A00aKHAROSHTHI LETTER AbVOWEL SIGN IdUdVOCALIC R
10A05aKHAROSHTHI VOWEL SIGN EdO
10A0CaKHAROSHTHI VOWEL LENGTH MARKbSIGN DOUBLE RING BELOWcANUSVARAcVISARGA
10A10aKHAROSHTHI LETTER KAcKHAcGAcGHA
10A15aKHAROSHTHI LETTER CAcCHAcJA
10A19aKHAROSHTHI LETTER NYAcTTAcTTHAcDDAcDDHAcNNAcTAcTHAcDAcDHAcNAcPAcPHAcBA
10A27aKHAROSHTHI LETTER BHAcMAcYAcRAcLAcVAcSHAcSSAcSAcZAcHAcKKAcTTTHAcTTTAcVHA
10A38aKHAROSHTHI SIGN BAR ABOVEcCAUDAcDOT BELOW
10A3FaKHAROSHTHI VIRAMAbDIGIT ONEcTWOcTHREEcFOURbNUMBER TENcTWENTYcONE HUNDRED
10A47aKHAROSHTHI NUMBER ONE THOUSANDbFRACTION ONE HALF
10A50aKHAROSHTHI PUNCTUATION DOTcSMALL CIRCLEcCIRCLEcCRESCENT BARcMANGALAM
10A55aKHAROSHTHI PUNCTUATION LOTUScDANDAcDOUBLE DANDAcLINES
10A60aOLD SOUTH ARABIAN LETTER HEeLAMEDHeHETHeMEMeQOPHeWAWeSHINeRESHeBETHeTAW
10A6AaOLD SOUTH ARABIAN LETTER SATeKAPHeNUNeKHETHeSADHEeSAMEKHeFEeALEFeAYN
10A73aOLD SOUTH ARABIAN LETTER DHADHEeGIMELeDALETHeGHAYNeTETHeZAYNeDHALETH
10A7AaOLD SOUTH ARABIAN LETTER YODHeTHAWeTHETHdNUMBER ONEeFIFTY
10A7FaOLD SOUTH ARABIAN NUMERIC INDICATORbNORTH ARABIAN LETTER HEHeLAMeHAH
10A83aOLD NORTH ARABIAN LETTER MEEMeQAFeWAWeES-2eREHeBEHeTEHeES-1eKAFeNOON
10A8DaOLD NORTH ARABIAN LETTER KHAHeSADeES-3eFEHeALEFeAINeDADeGEEMeDALeGHAIN
10A97aOLD NORTH ARABIAN LETTER TAHeZAINeTHALeYEHeTHEHeZAHdNUMBER ONEeTEN
10A9FaOLD NORTH ARABIAN NUMBER TWENTY
10AC0aMANICHAEAN LETTER ALEPHcBETHcBHETHcGIMELcGHIMELcDALETHcHEcWAWbSIGN UD
10AC9aMANICHAEAN LETTER ZAYINcZHAYINcJAYINcJHAYINcHETHcTETHcYODHcKAPHcXAPH
10AD2aMANICHAEAN LETTER KHAPHcLAMEDHcDHAMEDHcTHAMEDHcMEMcNUNcSAMEKHcAYINcAAYIN
10ADBaMANICHAEAN LETTER PEcFEcSADHEcQOPHcXOPHcQHOPHcRESHcSHINcSSHINcTAW
10AE5aMANICHAEAN ABBREVIATION MARK ABOVEdBELOW
10AEBaMANICHAEAN NUMBER ONEcFIVEcTENcTWENTYcONE HUNDREDbPUNCTUATION STAR
10AF1aMANICHAEAN PUNCTUATION FLEURONcDOUBLE DOT WITHIN DOTcDOT WITHIN DOTcDOT
10AF5aMANICHAEAN PUNCTUATION TWO DOTScLINE FILLER
10B00aAVESTAN LETTER AdAcAOcAAOcANcAANcAEdEcEdEcOdOcIdIcUdUcKEcXEcXYEcXVEcGE
10B15aAVESTAN LETTER GGEcGHEcCEcJEcTEcTHEcDEcDHEcTTEcPEcFEcBEcBHEcNGEcNGYE
10B24aAVESTAN LETTER NGVEcNEcNYEcNNEcMEcHMEcYYEcYEcVEcREcLEcSEcZEcSHEcZHEcSHYE
10B34aAVESTAN LETTER SSHEcHE
10B39aAVESTAN ABBREVIATION MARKaTINY TWO DOTS OVER ONE DOT PUNCTUATION
10B3BaSMALL TWO DOTS OVER ONE DOT PUNCTUATION
10B3CaLARGE TWO DOTS OVER ONE DOT PUNCTUATION
10B3DaLARGE ONE DOT OVER TWO DOTS PUNCTUATION
10B3EaLARGE TWO RINGS OVER ONE RING PUNCTUATION
10B3FaLARGE ONE RING OVER TWO RINGS PUNCTUATION
10B40aINSCRIPTIONAL PARTHIAN LETTER ALEPHdBETHdGIMELdDALETHdHEdWAWdZAYINdHETH
10B48aINSCRIPTIONAL PARTHIAN LETTER TETHdYODHdKAPHdLAMEDHdMEMdNUNdSAMEKHdAYIN
10B50aINSCRIPTIONAL PARTHIAN LETTER PEdSADHEdQOPHdRESHdSHINdTAW
10B58aINSCRIPTIONAL PARTHIAN NUMBER ONEdTWOdTHREEdFOURdTENdTWENTYdONE HUNDRED
10B5FaINSCRIPTIONAL PARTHIAN NUMBER ONE THOUSANDbPAHLAVI LETTER ALEPHdBETH
10B62aINSCRIPTIONAL PAHLAVI LETTER GIMELdDALETHdHEdWAW-AYIN-RESHdZAYINdHETH
10B68aINSCRIPTIONAL PAHLAVI LETTER TETHdYODHdKAPHdLAMEDHdMEM-QOPHdNUNdSAMEKH
10B6FaINSCRIPTIONAL PAHLAVI LETTER PEdSADHEdSHINdTAW
10B78aINSCRIPTIONAL PAHLAVI NUMBER ONEdTWOdTHREEdFOURdTENdTWENTYdONE HUNDRED
10B7FaINSCRIPTIONAL PAHLAVI NUMBER ONE THOUSANDaPSALTER PAHLAVI LETTER ALEPH
10B81aPSALTER PAHLAVI LETTER BETHdGIMELdDALETHdHEdWAW-AYIN-RESHdZAYINdHETH
10B88aPSALTER PAHLAVI LETTER YODHdKAPHdLAMEDHdMEM-QOPHdNUNdSAMEKHdPEdSADHE
10B90aPSALTER PAHLAVI LETTER SHINdTAW
10B99aPSALTER PAHLAVI SECTION MARKcTURNED SECTION MARKcFOUR DOTS WITH CROSS
10B9CaPSALTER PAHLAVI FOUR DOTS WITH DOT
10BA9aPSALTER PAHLAVI NUMBER ONEdTWOdTHREEdFOURdTENdTWENTYdONE HUNDRED
10C00aOLD TURKIC LETTER ORKHON AdYENISEI AfEdORKHON IdYENISEI IeEdORKHON OfE
10C08aOLD TURKIC LETTER YENISEI OEdORKHON ABdYENISEI ABdORKHON AEBdYENISEI AEB
10C0DaOLD TURKIC LETTER ORKHON AGdYENISEI AGdORKHON AEGdYENISEI AEGdORKHON AD
10C12aOLD TURKIC LETTER YENISEI ADdORKHON AEDeEZdYENISEI EZdORKHON AY
10C17aOLD TURKIC LETTER YENISEI AYdORKHON AEYdYENISEI AEYdORKHON AEK
10C1BaOLD TURKIC LETTER YENISEI AEKdORKHON OEKdYENISEI OEKdORKHON AL
10C1FaOLD TURKIC LETTER YENISEI ALdORKHON AELeELTeEMeANeAENdYENISEI AEN
10C26aOLD TURKIC LETTER ORKHON ENTdYENISEI ENTdORKHON ENCdYENISEI ENC
10C2AaOLD TURKIC LETTER ORKHON ENYdYENISEI ENYeANGdORKHON ENGdYENISEI AENG
10C2FaOLD TURKIC LETTER ORKHON EPeOPeICeECdYENISEI ECdORKHON AQdYENISEI AQ
10C36aOLD TURKIC LETTER ORKHON IQdYENISEI IQdORKHON OQdYENISEI OQdORKHON AR
10C3BaOLD TURKIC LETTER YENISEI ARdORKHON AEReASeAESeASHdYENISEI ASH
10C41aOLD TURKIC LETTER ORKHON ESHdYENISEI ESHdORKHON ATdYENISEI ATdORKHON AET
10C46aOLD TURKIC LETTER YENISEI AETdORKHON OTeBASH
10C80aOLD HUNGARIAN CAPITAL LETTER AfAeEBeAMBeECeENCeECSeEDeANDeEeCLOSE EeEE
10C8CaOLD HUNGARIAN CAPITAL LETTER EFeEGfYeEHeIfIeEJeEKeAKeUNKeELfYeEMeENfYeO
10C9CaOLD HUNGARIAN CAPITAL LETTER OOeNIKOLSBURG OEeRUDIMENTA OEeOEEeEPeEMPeER
10CA3aOLD HUNGARIAN CAPITAL LETTER SHORT EReESfZeETeENTeETYeECHeUfU
10CACaOLD HUNGARIAN CAPITAL LETTER NIKOLSBURG UEeRUDIMENTA UEeEVeEZfS
10CB1aOLD HUNGARIAN CAPITAL LETTER ENT-SHAPED SIGNeUS
10CC0aOLD HUNGARIAN SMALL LETTER AfAeEBeAMBeECeENCeECSeEDeANDeEeCLOSE EeEEeEF
10CCDaOLD HUNGARIAN SMALL LETTER EGfYeEHeIfIeEJeEKeAKeUNKeELfYeEMeENfYeOfO
10CDDaOLD HUNGARIAN SMALL LETTER NIKOLSBURG OEeRUDIMENTA OEeOEEeEPeEMPeER
10CE3aOLD HUNGARIAN SMALL LETTER SHORT EReESfZeETeENTeETYeECHeUfU
10CECaOLD HUNGARIAN SMALL LETTER NIKOLSBURG UEeRUDIMENTA UEeEVeEZfS
10CF1aOLD HUNGARIAN SMALL LETTER ENT-SHAPED SIGNeUS
10CFAaOLD HUNGARIAN NUMBER ONEdFIVEdTENdFIFTYdONE HUNDREDeTHOUSAND
10D00aHANIFI ROHINGYA LETTER AdBAdPAdTAdTTAdJAdCAdHAdKHAdFAdDAdDDAdRAdRRAdZA
10D0FaHANIFI ROHINGYA LETTER SAdSHAdKAdGAdLAdMAdNAdWAdKINNA WAdYAdKINNA YAdNGA
10D1BaHANIFI ROHINGYA LETTER NYAdVAcVOWEL AdIdUdEdOcMARK SAKINdNA KHONNA
10D24aHANIFI ROHINGYA SIGN HARBAHAYdTAHALAdTANAdTASSI
10D30aHANIFI ROHINGYA DIGIT ZEROdONEdTWOdTHREEdFOURdFIVEdSIXdSEVENdEIGHTdNINE
10E60aRUMI DIGIT ONEcTWOcTHREEcFOURcFIVEcSIXcSEVENcEIGHTcNINEbNUMBER TEN
10E6AaRUMI NUMBER TWENTYcTHIRTYcFORTYcFIFTYcSIXTYcSEVENTYcEIGHTYcNINETY
10E72aRUMI NUMBER ONE HUNDREDcTWO HUNDREDcTHREE HUNDREDcFOUR HUNDRED
10E76aRUMI NUMBER FIVE HUNDREDcSIX HUNDREDcSEVEN HUNDREDcEIGHT HUNDRED
10E7AaRUMI NUMBER NINE HUNDREDbFRACTION ONE HALFdQUARTERdTHIRDcTWO THIRDS
10E80aYEZIDI LETTER ELIFcBEcPEcPHEcTHEcSEcCIMcCHIMcCHHIMcHHAcXAcDALcZALcRAcRHA
10E8FaYEZIDI LETTER ZAcJAcSINcSHINcSADcDADcTAcZEcEYNcXHEYNcFAcVA
10E9BaYEZIDI LETTER VA ALTERNATE FORMcQAFcKAFcKHAFcGAFcLAMcMIMcNUNcUMcWAWcOW
10EA6aYEZIDI LETTER EWcHAYcYOTcET
10EABaYEZIDI COMBINING HAMZA MARKcMADDA MARKbHYPHENATION MARK
10EB0aYEZIDI LETTER LAM WITH DOT ABOVEcYOT WITH CIRCUMFLEX ABOVE
10F00aOLD SOGDIAN LETTER ALEPHdFINAL ALEPHdBETHdFINAL BETHdGIMELdHEdFINAL HE
10F07aOLD SOGDIAN LETTER WAWdZAYINdHETHdYODHdKAPHdLAMEDHdMEMdNUNdFINAL NUN
10F10aOLD SOGDIAN LETTER FINAL NUN WITH VERTICAL TAILdSAMEKHdAYIN
10F13aOLD SOGDIAN LETTER ALTERNATE AYINdPEdSADHEdFINAL SADHE
10F17aOLD SOGDIAN LETTER FINAL SADHE WITH VERTICAL TAILdRESH-AYIN-DALETHdSHIN
10F1AaOLD SOGDIAN LETTER TAWdFINAL TAWf WITH VERTICAL TAILcNUMBER ONEdTWO
10F1FaOLD SOGDIAN NUMBER THREEdFOURdFIVEdTENdTWENTYdTHIRTYdONE HUNDRED
10F26aOLD SOGDIAN FRACTION ONE HALFcLIGATURE AYIN-DALETH
10F30aSOGDIAN LETTER ALEPHcBETHcGIMELcHEcWAWcZAYINcHETHcYODHcKAPHcLAMEDHcMEM
10F3BaSOGDIAN LETTER NUNcSAMEKHcAYINcPEcSADHEcRESH-AYINcSHINcTAWcFETHcLESH
10F45aSOGDIAN INDEPENDENT SHINbCOMBINING DOT BELOWcTWO DOTS BELOWcDOT ABOVE
10F49aSOGDIAN COMBINING TWO DOTS ABOVEcCURVE ABOVEdBELOWcHOOK ABOVEdBELOW
10F4EaSOGDIAN COMBINING LONG HOOK BELOWcRESH BELOWcSTROKE BELOWbNUMBER ONEcTEN
10F53aSOGDIAN NUMBER TWENTYcONE HUNDREDbPUNCTUATION TWO VERTICAL BARS
10F56aSOGDIAN PUNCTUATION TWO VERTICAL BARS WITH DOTScCIRCLE WITH DOT
10F58aSOGDIAN PUNCTUATION TWO CIRCLES WITH DOTScHALF CIRCLE WITH DOT
10F70aOLD UYGHUR LETTER ALEPHdBETHdGIMEL-HETHdWAWdZAYINdFINAL HETHdYODHdKAPH
10F78aOLD UYGHUR LETTER LAMEDHdMEMdNUNdSAMEKHdPEdSADHEdRESHdSHINdTAWdLESH
10F82aOLD UYGHUR COMBINING DOT ABOVEeBELOWdTWO DOTS ABOVEfBELOW
10F86aOLD UYGHUR PUNCTUATION BARdTWO BARSeDOTSdFOUR DOTS
10FB0aCHORASMIAN LETTER ALEPHcSMALL ALEPHcBETHcGIMELcDALETHcHEcWAWcCURLED WAW
10FB8aCHORASMIAN LETTER ZAYINcHETHcYODHcKAPHcLAMEDHcMEMcNUNcSAMEKHcAYINcPE
10FC2aCHORASMIAN LETTER RESHcSHINcTAWbNUMBER ONEcTWOcTHREEcFOURcTENcTWENTY
10FCBaCHORASMIAN NUMBER ONE HUNDRED
10FE0aELYMAIC LETTER ALEPHcBETHcGIMELcDALETHcHEcWAWcZAYINcHETHcTETHcYODHcKAPH
10FEBaELYMAIC LETTER LAMEDHcMEMcNUNcSAMEKHcAYINcPEcSADHEcQOPHcRESHcSHINcTAW
10FF6aELYMAIC LIGATURE ZAYIN-YODH
11000aBRAHMI SIGN CANDRABINDUcANUSVARAcVISARGAcJIHVAMULIYAcUPADHMANIYA
11005aBRAHMI LETTER AdAcIdIcUdUcVOCALIC ReRdLeLcEcAIcOcAUcKAcKHAcGAcGHAcNGAcCA
11019aBRAHMI LETTER CHAcJAcJHAcNYAcTTAcTTHAcDDAcDDHAcNNAcTAcTHAcDAcDHAcNAcPA
11028aBRAHMI LETTER PHAcBAcBHAcMAcYAcRAcLAcVAcSHAcSSAcSAcHAcLLAcOLD TAMIL LLLA
11036aBRAHMI LETTER OLD TAMIL RRAeNNNAbVOWEL SIGN AAdBHATTIPROLU AAdIeIdUeU
1103EaBRAHMI VOWEL SIGN VOCALIC RfReLfLdEdAIdOdAUbVIRAMAbDANDAbDOUBLE DANDA
11049aBRAHMI PUNCTUATION DOTcDOUBLE DOTcLINEcCRESCENT BARcLOTUS
11052aBRAHMI NUMBER ONEcTWOcTHREEcFOURcFIVEcSIXcSEVENcEIGHTcNINEcTENcTWENTY
1105DaBRAHMI NUMBER THIRTYcFORTYcFIFTYcSIXTYcSEVENTYcEIGHTYcNINETYcONE HUNDRED
11065aBRAHMI NUMBER ONE THOUSANDbDIGIT ZEROcONEcTWOcTHREEcFOURcFIVEcSIXcSEVEN
1106EaBRAHMI DIGIT EIGHTcNINEbSIGN OLD TAMIL VIRAMAbLETTER OLD TAMIL SHORT EfO
11073aBRAHMI VOWEL SIGN OLD TAMIL SHORT EgObLETTER OLD TAMIL LLA
1107FaBRAHMI NUMBER JOINERaKAITHI SIGN CANDRABINDUcANUSVARAcVISARGAbLETTER AdA
11085aKAITHI LETTER IdIcUdUcEcAIcOcAUcKAcKHAcGAcGHAcNGAcCAcCHAcJAcJHAcNYAcTTA
11098aKAITHI LETTER TTHAcDDAcDDDHAcDDHAcRHAcNNAcTAcTHAcDAcDHAcNAcPAcPHAcBAcBHA
110A7aKAITHI LETTER MAcYAcRAcLAcVAcSHAcSSAcSAcHAbVOWEL SIGN AAdIeIdUeUdEdAIdO
110B8aKAITHI VOWEL SIGN AUbSIGN VIRAMAcNUKTAbABBREVIATION SIGN
110BCaKAITHI ENUMERATION SIGNbNUMBER SIGNbSECTION MARKbDOUBLE SECTION MARK
110C0aKAITHI DANDAbDOUBLE DANDAbVOWEL SIGN VOCALIC R
110CDaKAITHI NUMBER SIGN ABOVE
110D0aSORA SOMPENG LETTER SAHdTAHdBAHdCAHdDAHdGAHdMAHdNGAHdLAHdNAHdVAHdPAHdYAH
110DDaSORA SOMPENG LETTER RAHdHAHdKAHdJAHdNYAHdAHdEEHdIHdUHdOHdEHdMAE
110F0aSORA SOMPENG DIGIT ZEROdONEdTWOdTHREEdFOURdFIVEdSIXdSEVENdEIGHTdNINE
11100aCHAKMA SIGN CANDRABINDUcANUSVARAcVISARGAbLETTER AAcIcUcEcKAAcKHAAcGAA
1110AaCHAKMA LETTER GHAAcNGAAcCAAcCHAAcJAAcJHAAcNYAAcTTAAcTTHAAcDDAAcDDHAA
11115aCHAKMA LETTER NNAAcTAAcTHAAcDAAcDHAAcNAAcPAAcPHAAcBAAcBHAAcMAAcYYAAcYAA
11122aCHAKMA LETTER RAAcLAAcWAAcSAAcHAAbVOWEL SIGN AdIeIdUeUdEdAIdOdAUdOI
11131aCHAKMA O MARKbAU MARKbVIRAMAbMAAYYAA
11136aCHAKMA DIGIT ZEROcONEcTWOcTHREEcFOURcFIVEcSIXcSEVENcEIGHTcNINE
11140aCHAKMA SECTION MARKbDANDAbDOUBLE DANDAbQUESTION MARKbLETTER LHAA
11145aCHAKMA VOWEL SIGN AAdEIbLETTER VAA
11150aMAHAJANI LETTER AcIcUcEcOcKAcKHAcGAcGHAcCAcCHAcJAcJHAcNYAcTTAcTTHAcDDA
11161aMAHAJANI LETTER DDHAcNNAcTAcTHAcDAcDHAcNAcPAcPHAcBAcBHAcMAcRAcLAcVAcSA
11171aMAHAJANI LETTER HAcRRAbSIGN NUKTAbABBREVIATION SIGNbSECTION MARK
11176aMAHAJANI LIGATURE SHRI
11180aSHARADA SIGN CANDRABINDUcANUSVARAcVISARGAbLETTER AdAcIdIcUdUcVOCALIC ReR
1118BaSHARADA LETTER VOCALIC LeLcEcAIcOcAUcKAcKHAcGAcGHAcNGAcCAcCHAcJAcJHAcNYA
1119BaSHARADA LETTER TTAcTTHAcDDAcDDHAcNNAcTAcTHAcDAcDHAcNAcPAcPHAcBAcBHAcMA
111AAaSHARADA LETTER YAcRAcLAcLLAcVAcSHAcSSAcSAcHAbVOWEL SIGN AAdIeIdUeU
111B8aSHARADA VOWEL SIGN VOCALIC RfReLfLdEdAIdOdAUbSIGN VIRAMAcAVAGRAHA
111C2aSHARADA SIGN JIHVAMULIYAcUPADHMANIYAbOMbDANDAbDOUBLE DANDA
111C7aSHARADA ABBREVIATION SIGNbSEPARATORbSANDHI MARKbSIGN NUKTA
111CBaSHARADA VOWEL MODIFIER MARKbEXTRA SHORT VOWEL MARKbSUTRA MARK
111CEaSHARADA VOWEL SIGN PRISHTHAMATRA EbSIGN INVERTED CANDRABINDUbDIGIT ZERO
111D1aSHARADA DIGIT ONEcTWOcTHREEcFOURcFIVEcSIXcSEVENcEIGHTcNINEbEKAM
111DBaSHARADA SIGN SIDDHAMbHEADSTROKEbCONTINUATION SIGNbSECTION MARK-1d2
111E1aSINHALA ARCHAIC DIGIT ONEdTWOdTHREEdFOURdFIVEdSIXdSEVENdEIGHTdNINE
111EAaSINHALA ARCHAIC NUMBER TENdTWENTYdTHIRTYdFORTYdFIFTYdSIXTYdSEVENTY
111F1aSINHALA ARCHAIC NUMBER EIGHTYdNINETYdONE HUNDREDeTHOUSAND
11200aKHOJKI LETTER AdAcIcUcEcAIcOcAUcKAcKHAcGAcGGAcGHAcNGAcCAcCHAcJAcJJA
11213aKHOJKI LETTER NYAcTTAcTTHAcDDAcDDHAcNNAcTAcTHAcDAcDDDAcDHAcNAcPAcPHAcBA
11222aKHOJKI LETTER BBAcBHAcMAcYAcRAcLAcVAcSAcHAcLLAbVOWEL SIGN AAdIeIdUdEdAI
11232aKHOJKI VOWEL SIGN OdAUbSIGN ANUSVARAcVIRAMAcNUKTAcSHADDAbDANDA
11239aKHOJKI DOUBLE DANDAbWORD SEPARATORbSECTION MARKbDOUBLE SECTION MARK
1123DaKHOJKI ABBREVIATION SIGNbSIGN SUKUN
11280aMULTANI LETTER AcIcUcEcKAcKHAcGA
11288aMULTANI LETTER GHA
1128AaMULTANI LETTER CAcCHAcJAcJJA
1128FaMULTANI LETTER NYAcTTAcTTHAcDDAcDDDAcDDHAcNNAcTAcTHAcDAcDHAcNAcPAcPHAcBA
1129FaMULTANI LETTER BHAcMAcYAcRAcLAcVAcSAcHAcRRAcRHAbSECTION MARK
112B0aKHUDAWADI LETTER AdAcIdIcUdUcEcAIcOcAUcKAcKHAcGAcGGAcGHAcNGAcCAcCHAcJA
112C3aKHUDAWADI LETTER JJAcJHAcNYAcTTAcTTHAcDDAcDDDAcRRAcDDHAcNNAcTAcTHAcDA
112D0aKHUDAWADI LETTER DHAcNAcPAcPHAcBAcBBAcBHAcMAcYAcRAcLAcVAcSHAcSAcHA
112DFaKHUDAWADI SIGN ANUSVARAbVOWEL SIGN AAdIeIdUeUdEdAIdOdAUbSIGN NUKTA
112EAaKHUDAWADI SIGN VIRAMA
112F0aKHUDAWADI DIGIT ZEROcONEcTWOcTHREEcFOURcFIVEcSIXcSEVENcEIGHTcNINE
11300aGRANTHA SIGN COMBINING ANUSVARA ABOVEcCANDRABINDUcANUSVARAcVISARGA
11305aGRANTHA LETTER AdAcIdIcUdUcVOCALIC RdL
1130FaGRANTHA LETTER EEcAI
11313aGRANTHA LETTER OOcAUcKAcKHAcGAcGHAcNGAcCAcCHAcJAcJHAcNYAcTTAcTTHAcDDA
11322aGRANTHA LETTER DDHAcNNAcTAcTHAcDAcDHAcNA
1132AaGRANTHA LETTER PAcPHAcBAcBHAcMAcYAcRA
11332aGRANTHA LETTER LAcLLA
11335aGRANTHA LETTER VAcSHAcSSAcSAcHA
1133BaCOMBINING BINDU BELOWaGRANTHA SIGN NUKTAcAVAGRAHAbVOWEL SIGN AAdIeIdUeU
11343aGRANTHA VOWEL SIGN VOCALIC RfR
11347aGRANTHA VOWEL SIGN EEdAI
1134BaGRANTHA VOWEL SIGN OOdAUbSIGN VIRAMA
11350aGRANTHA OM
11357aGRANTHA AU LENGTH MARK
1135DaGRANTHA SIGN PLUTAbLETTER VEDIC ANUSVARAdDOUBLE ANUSVARAcVOCALIC RRdLL
11362aGRANTHA VOWEL SIGN VOCALIC LfL
11366aCOMBINING GRANTHA DIGIT ZEROdONEdTWOdTHREEdFOURdFIVEdSIX
11370aCOMBINING GRANTHA LETTER AdKAdNAdVIdPA
11400aNEWA LETTER AdAcIdIcUdUcVOCALIC ReRdLeLcEcAIcOcAUcKAcKHAcGAcGHAcNGAcNGHA
11414aNEWA LETTER CAcCHAcJAcJHAcNYAcNYHAcTTAcTTHAcDDAcDDHAcNNAcTAcTHAcDAcDHA
11423aNEWA LETTER NAcNHAcPAcPHAcBAcBHAcMAcMHAcYAcRAcRHAcLAcLHAcWAcSHAcSSAcSA
11434aNEWA LETTER HAbVOWEL SIGN AAdIeIdUeUdVOCALIC RfReLfLdEdAIdOdAU
11442aNEWA SIGN VIRAMAcCANDRABINDUcANUSVARAcVISARGAcNUKTAcAVAGRAHA
11448aNEWA SIGN FINAL ANUSVARAbOMbSIDDHIbDANDAbDOUBLE DANDAbCOMMAbGAP FILLER
1144FaNEWA ABBREVIATION SIGNbDIGIT ZEROcONEcTWOcTHREEcFOURcFIVEcSIXcSEVEN
11458aNEWA DIGIT EIGHTcNINEbDOUBLE COMMAbPLACEHOLDER MARK
1145DaNEWA INSERTION SIGNbSANDHI MARKbLETTER VEDIC ANUSVARAbSIGN JIHVAMULIYA
11461aNEWA SIGN UPADHMANIYA
11480aTIRHUTA ANJIbLETTER AdAcIdIcUdUcVOCALIC ReRdLeLcEcAIcOcAUcKAcKHAcGAcGHA
11493aTIRHUTA LETTER NGAcCAcCHAcJAcJHAcNYAcTTAcTTHAcDDAcDDHAcNNAcTAcTHAcDAcDHA
114A2aTIRHUTA LETTER NAcPAcPHAcBAcBHAcMAcYAcRAcLAcVAcSHAcSSAcSAcHA
114B0aTIRHUTA VOWEL SIGN AAdIeIdUeUdVOCALIC RfReLfLdEdSHORT EdAIdOdSHORT OdAU
114BFaTIRHUTA SIGN CANDRABINDUcANUSVARAcVISARGAcVIRAMAcNUKTAcAVAGRAHAbGVANG
114C6aTIRHUTA ABBREVIATION SIGNbOM
114D0aTIRHUTA DIGIT ZEROcONEcTWOcTHREEcFOURcFIVEcSIXcSEVENcEIGHTcNINE
11580aSIDDHAM LETTER AdAcIdIcUdUcVOCALIC ReRdLeLcEcAIcOcAUcKAcKHAcGAcGHAcNGA
11593aSIDDHAM LETTER CAcCHAcJAcJHAcNYAcTTAcTTHAcDDAcDDHAcNNAcTAcTHAcDAcDHAcNA
115A2aSIDDHAM LETTER PAcPHAcBAcBHAcMAcYAcRAcLAcVAcSHAcSSAcSAcHAbVOWEL SIGN AA
115B0aSIDDHAM VOWEL SIGN IeIdUeUdVOCALIC RfR
115B8aSIDDHAM VOWEL SIGN EdAIdOdAUbSIGN CANDRABINDUcANUSVARAcVISARGAcVIRAMA
115C0aSIDDHAM SIGN NUKTAcSIDDHAMbDANDAbDOUBLE DANDAbSEPARATOR DOTcBAR
115C6aSIDDHAM REPETITION MARK-1d2d3bEND OF TEXT MARK
115CAaSIDDHAM SECTION MARK WITH TRIDENT AND U-SHAPED ORNAMENTS
115CBaSIDDHAM SECTION MARK WITH TRIDENT AND DOTTED CRESCENTS
115CCaSIDDHAM SECTION MARK WITH RAYS AND DOTTED CRESCENTShDOUBLE CRESCENTS
115CEaSIDDHAM SECTION MARK WITH RAYS AND DOTTED TRIPLE CRESCENTSdDOUBLE RING
115D0aSIDDHAM SECTION MARK DOUBLE RING WITH RAYSdWITH DOUBLE CRESCENTS
115D2aSIDDHAM SECTION MARK WITH TRIPLE CRESCENTSeQUADRUPLE CRESCENTS
115D4aSIDDHAM SECTION MARK WITH SEPTUPLE CRESCENTSeCIRCLES AND RAYS
115D6aSIDDHAM SECTION MARK WITH CIRCLES AND TWO ENCLOSURESgFOUR ENCLOSURES
115D8aSIDDHAM LETTER THREE-CIRCLE ALTERNATE IcTWO-CIRCLE ALTERNATE IgI
115DBaSIDDHAM LETTER ALTERNATE UbVOWEL SIGN ALTERNATE UfU
11600aMODI LETTER AdAcIdIcUdUcVOCALIC ReRdLeLcEcAIcOcAUcKAcKHAcGAcGHAcNGAcCA
11614aMODI LETTER CHAcJAcJHAcNYAcTTAcTTHAcDDAcDDHAcNNAcTAcTHAcDAcDHAcNAcPAcPHA
11624aMODI LETTER BAcBHAcMAcYAcRAcLAcVAcSHAcSSAcSAcHAcLLAbVOWEL SIGN AAdIeIdU
11634aMODI VOWEL SIGN UUdVOCALIC RfReLfLdEdAIdOdAUbSIGN ANUSVARAcVISARGA
1163FaMODI SIGN VIRAMAcARDHACANDRAbDANDAbDOUBLE DANDAbABBREVIATION SIGN
11644aMODI SIGN HUVA
11650aMODI DIGIT ZEROcONEcTWOcTHREEcFOURcFIVEcSIXcSEVENcEIGHTcNINE
11660aMONGOLIAN BIRGA WITH ORNAMENTbROTATED BIRGAbDOUBLE BIRGA WITH ORNAMENT
11663aMONGOLIAN TRIPLE BIRGA WITH ORNAMENTbBIRGA WITH DOUBLE ORNAMENT
11665aMONGOLIAN ROTATED BIRGA WITH ORNAMENTeDOUBLE ORNAMENTbINVERTED BIRGA
11668aMONGOLIAN INVERTED BIRGA WITH DOUBLE ORNAMENTbSWIRL BIRGAd WITH ORNAMENT
1166BaMONGOLIAN SWIRL BIRGA WITH DOUBLE ORNAMENT
1166CaMONGOLIAN TURNED SWIRL BIRGA WITH DOUBLE ORNAMENT
11680aTAKRI LETTER AdAcIdIcUdUcEcAIcOcAUcKAcKHAcGAcGHAcNGAcCAcCHAcJAcJHAcNYA
11694aTAKRI LETTER TTAcTTHAcDDAcDDHAcNNAcTAcTHAcDAcDHAcNAcPAcPHAcBAcBHAcMAcYA
116A4aTAKRI LETTER RAcLAcVAcSHAcSAcHAcRRAbSIGN ANUSVARAcVISARGAbVOWEL SIGN AA
116AEaTAKRI VOWEL SIGN IeIdUeUdEdAIdOdAUbSIGN VIRAMAcNUKTAbLETTER ARCHAIC KHA
116B9aTAKRI ABBREVIATION SIGN
116C0aTAKRI DIGIT ZEROcONEcTWOcTHREEcFOURcFIVEcSIXcSEVENcEIGHTcNINE
11700aAHOM LETTER KAcKHAcNGAcNAcTAcALTERNATE TAcPAcPHAcBAcMAcJAcCHAcTHAcRAcLA
1170FaAHOM LETTER SAcNYAcHAcAcDAcDHAcGAcALTERNATE GAcGHAcBHAcJHAcALTERNATE BA
1171DaAHOM CONSONANT SIGN MEDIAL LAeRAeLIGATING RAbVOWEL SIGN AeAdIeIdUeUdEdAW
11728aAHOM VOWEL SIGN OdAIdAMbSIGN KILLER
11730aAHOM DIGIT ZEROcONEcTWOcTHREEcFOURcFIVEcSIXcSEVENcEIGHTcNINEbNUMBER TEN
1173BaAHOM NUMBER TWENTYbSIGN SMALL SECTIONcSECTIONcRULAIbSYMBOL VIbLETTER CA
11741aAHOM LETTER TTAcTTHAcDDAcDDHAcNNAcLLA
11800aDOGRA LETTER AdAcIdIcUdUcEcAIcOcAUcKAcKHAcGAcGHAcNGAcCAcCHAcJAcJHAcNYA
11814aDOGRA LETTER TTAcTTHAcDDAcDDHAcNNAcTAcTHAcDAcDHAcNAcPAcPHAcBAcBHAcMAcYA
11824aDOGRA LETTER RAcLAcVAcSHAcSSAcSAcHAcRRAbVOWEL SIGN AAdIeIdUeUdVOCALIC R
11832aDOGRA VOWEL SIGN VOCALIC RRdEdAIdOdAUbSIGN ANUSVARAcVISARGAcVIRAMAcNUKTA
1183BaDOGRA ABBREVIATION SIGN
118A0aWARANG CITI CAPITAL LETTER NGAAeAeWIeYUeYAeYOeIIeUUeEeOeANGeGAeKOeENY
118AEaWARANG CITI CAPITAL LETTER YUJeUCeENNeODDeTTEeNUNGeDAeATeAMeBUePUeHIYO
118BAaWARANG CITI CAPITAL LETTER HOLOeHORReHAReSSUUeSIIeVIYOcSMALL LETTER NGAA
118C1aWARANG CITI SMALL LETTER AeWIeYUeYAeYOeIIeUUeEeOeANGeGAeKOeENYeYUJeUC
118D0aWARANG CITI SMALL LETTER ENNeODDeTTEeNUNGeDAeATeAMeBUePUeHIYOeHOLOeHORR
118DCaWARANG CITI SMALL LETTER HAReSSUUeSIIeVIYOcDIGIT ZEROdONEdTWOdTHREEdFOUR
118E5aWARANG CITI DIGIT FIVEdSIXdSEVENdEIGHTdNINEcNUMBER TENdTWENTYdTHIRTY
118EDaWARANG CITI NUMBER FORTYdFIFTYdSIXTYdSEVENTYdEIGHTYdNINETY
118FFaWARANG CITI OMaDIVES AKURU LETTER AeAdIeIdUeUdE
11909aDIVES AKURU LETTER O
1190CaDIVES AKURU LETTER KAdKHAdGAdGHAdNGAdCAdCHAdJA
11915aDIVES AKURU LETTER NYAdTTA
11918aDIVES AKURU LETTER DDAdDDHAdNNAdTAdTHAdDAdDHAdNAdPAdPHAdBAdBHAdMAdYAdYYA
11927aDIVES AKURU LETTER RAdLAdVAdSHAdSSAdSAdHAdLLAdZAcVOWEL SIGN AAeIfIeUfUeE
11937aDIVES AKURU VOWEL SIGN AIeO
1193BaDIVES AKURU SIGN ANUSVARAdCANDRABINDUdHALANTAcVIRAMAcPREFIXED NASAL SIGN
11940aDIVES AKURU MEDIAL YAcINITIAL RAcMEDIAL RAcSIGN NUKTAcDOUBLE DANDA
11945aDIVES AKURU GAP FILLERcEND OF TEXT MARK
11950aDIVES AKURU DIGIT ZEROdONEdTWOdTHREEdFOURdFIVEdSIXdSEVENdEIGHTdNINE
119A0aNANDINAGARI LETTER AdAcIdIcUdUcVOCALIC ReR
119AAaNANDINAGARI LETTER EcAIcOcAUcKAcKHAcGAcGHAcNGAcCAcCHAcJAcJHAcNYAcTTA
119B9aNANDINAGARI LETTER TTHAcDDAcDDHAcNNAcTAcTHAcDAcDHAcNAcPAcPHAcBAcBHAcMA
119C7aNANDINAGARI LETTER YAcRAcLAcVAcSHAcSSAcSAcHAcLLAcRRAbVOWEL SIGN AAdIeIdU
119D5aNANDINAGARI VOWEL SIGN UUdVOCALIC RfR
119DAaNANDINAGARI VOWEL SIGN EdAIdOdAUbSIGN ANUSVARAcVISARGAcVIRAMAcAVAGRAHA
119E2aNANDINAGARI SIGN SIDDHAMbHEADSTROKEbVOWEL SIGN PRISHTHAMATRA E
11A00aZANABAZAR SQUARE LETTER AcVOWEL SIGN IeUEeUeEeOEeOeAIeAUeREVERSED I
11A0AaZANABAZAR SQUARE VOWEL LENGTH MARKcLETTER KAdKHAdGAdGHAdNGAdCAdCHAdJA
11A13aZANABAZAR SQUARE LETTER NYAdTTAdTTHAdDDAdDDHAdNNAdTAdTHAdDAdDHAdNAdPA
11A1FaZANABAZAR SQUARE LETTER PHAdBAdBHAdMAdTSAdTSHAdDZAdDZHAdZHAdZAd-AdYAdRA
11A2CaZANABAZAR SQUARE LETTER LAdVAdSHAdSSAdSAdHAdKSSAcFINAL CONSONANT MARK
11A34aZANABAZAR SQUARE SIGN VIRAMAdCANDRABINDUe WITH ORNAMENT
11A37aZANABAZAR SQUARE SIGN CANDRA WITH ORNAMENTdANUSVARAdVISARGA
11A3AaZANABAZAR SQUARE CLUSTER-INITIAL LETTER RAdFINAL LETTER YAfRAfLAfVA
11A3FaZANABAZAR SQUARE INITIAL HEAD MARKcCLOSING HEAD MARKcMARK TSHEGdSHAD
11A43aZANABAZAR SQUARE MARK DOUBLE SHADdLONG TSHEG
11A45aZANABAZAR SQUARE INITIAL DOUBLE-LINED HEAD MARK
11A46aZANABAZAR SQUARE CLOSING DOUBLE-LINED HEAD MARKcSUBJOINER
11A50aSOYOMBO LETTER AbVOWEL SIGN IdUEdUdEdOeEdAIdAUdVOCALIC ReLcLENGTH MARK
11A5CaSOYOMBO LETTER KAcKHAcGAcGHAcNGAcCAcCHAcJAcJHAcNYAcTTAcTTHAcDDAcDDHAcNNA
11A6BaSOYOMBO LETTER TAcTHAcDAcDHAcNAcPAcPHAcBAcBHAcMAcTSAcTSHAcDZAcZHAcZAc-A
11A7BaSOYOMBO LETTER YAcRAcLAcVAcSHAcSSAcSAcHAcKSSAbSIGN JIHVAMULIYA
11A85aSOYOMBO SIGN UPADHMANIYAbCLUSTER-INITIAL LETTER RAeLAeSHAeSA
11A8AaSOYOMBO FINAL CONSONANT SIGN GeKeNGeDeNeBeMeReLeSHeSe-AbSIGN ANUSVARA
11A97aSOYOMBO SIGN VISARGAbGEMINATION MARKbSUBJOINERbMARK TSHEGcSHAD
11A9CaSOYOMBO MARK DOUBLE SHADcPLUTA
11A9EaSOYOMBO HEAD MARK WITH MOON AND SUN AND TRIPLE FLAMEiFLAMEgSUN
11AA1aSOYOMBO TERMINAL MARK-1d2
11AB0aCANADIAN SYLLABICS NATTILIK HIeIdHOeOdHAeAdSHRIeIdSHROeOdSHRAeAcSPEcSPI
11ABEaCANADIAN SYLLABICS SPOcSPAaPAU CIN HAU LETTER PAeKAeLAeMAeDAeZAeVAeNGA
11AC8aPAU CIN HAU LETTER HAeGAeKHAeSAeBAeCAeTAeTHAeNAePHAeRAeFAeCHAeAeEeIeOeU
11ADAaPAU CIN HAU LETTER UAeIAeFINAL PfKfTfMfNfLfWfNGfYdRISING TONE LONGeTONE
11AE7aPAU CIN HAU SANDHI GLOTTAL STOPdRISING TONE LONG FINALfFINAL
11AEAaPAU CIN HAU SANDHI GLOTTAL STOP FINALeTONE LONGeTONEf LONG FINALfFINAL
11AEFaPAU CIN HAU MID-LEVEL TONEdGLOTTAL STOP VARIANT
11AF1aPAU CIN HAU MID-LEVEL TONE LONG FINALgFINALdLOW-FALLING TONE LONGfTONE
11AF5aPAU CIN HAU GLOTTAL STOPdLOW-FALLING TONE LONG FINALgFINAL
11AF8aPAU CIN HAU GLOTTAL STOP FINAL
11C00aBHAIKSUKI LETTER AdAcIdIcUdUcVOCALIC ReRdL
11C0AaBHAIKSUKI LETTER EcAIcOcAUcKAcKHAcGAcGHAcNGAcCAcCHAcJAcJHAcNYAcTTAcTTHA
11C1AaBHAIKSUKI LETTER DDAcDDHAcNNAcTAcTHAcDAcDHAcNAcPAcPHAcBAcBHAcMAcYAcRAcLA
11C2AaBHAIKSUKI LETTER VAcSHAcSSAcSAcHAbVOWEL SIGN AAdIeIdUeUdVOCALIC RfReL
11C38aBHAIKSUKI VOWEL SIGN EdAIdOdAUbSIGN CANDRABINDUcANUSVARAcVISARGAcVIRAMA
11C40aBHAIKSUKI SIGN AVAGRAHAbDANDAbDOUBLE DANDAbWORD SEPARATORbGAP FILLER-1d2
11C50aBHAIKSUKI DIGIT ZEROcONEcTWOcTHREEcFOURcFIVEcSIXcSEVENcEIGHTcNINE
11C5AaBHAIKSUKI NUMBER ONEcTWOcTHREEcFOURcFIVEcSIXcSEVENcEIGHTcNINEcTENcTWENTY
11C65aBHAIKSUKI NUMBER THIRTYcFORTYcFIFTYcSIXTYcSEVENTYcEIGHTYcNINETY
11C6CaBHAIKSUKI HUNDREDS UNIT MARK
11C70aMARCHEN HEAD MARKbMARK SHADbLETTER KAcKHAcGAcNGAcCAcCHAcJAcNYAcTAcTHAcDA
11C7DaMARCHEN LETTER NAcPAcPHAcBAcMAcTSAcTSHAcDZAcWAcZHAcZAc-AcYAcRAcLAcSHAcSA
11C8EaMARCHEN LETTER HAcA
11C92aMARCHEN SUBJOINED LETTER KAdKHAdGAdNGAdCAdCHAdJAdNYAdTAdTHAdDAdNAdPAdPHA
11CA0aMARCHEN SUBJOINED LETTER BAdMAdTSAdTSHAdDZAdWAdZHAdZA
11CA9aMARCHEN SUBJOINED LETTER YAdRAdLAdSHAdSAdHAdAbVOWEL SIGN AAdIdUdEdO
11CB5aMARCHEN SIGN ANUSVARAcCANDRABINDU
11D00aMASARAM GONDI LETTER AeAdIeIdUeUdE
11D08aMASARAM GONDI LETTER AIdO
11D0BaMASARAM GONDI LETTER AUdKAdKHAdGAdGHAdNGAdCAdCHAdJAdJHAdNYAdTTAdTTHAdDDA
11D19aMASARAM GONDI LETTER DDHAdNNAdTAdTHAdDAdDHAdNAdPAdPHAdBAdBHAdMAdYAdRAdLA
11D28aMASARAM GONDI LETTER VAdSHAdSSAdSAdHAdLLAdKSSAdJNYAdTRAcVOWEL SIGN AAeI
11D33aMASARAM GONDI VOWEL SIGN IIeUfUeVOCALIC R
11D3AaMASARAM GONDI VOWEL SIGN E
11D3CaMASARAM GONDI VOWEL SIGN AIeO
11D3FaMASARAM GONDI VOWEL SIGN AUcSIGN ANUSVARAdVISARGAdNUKTAdCANDRAdHALANTA
11D45aMASARAM GONDI VIRAMAcREPHAcRA-KARA
11D50aMASARAM GONDI DIGIT ZEROdONEdTWOdTHREEdFOURdFIVEdSIXdSEVENdEIGHTdNINE
11D60aGUNJALA GONDI LETTER AeAdIeIdUeU
11D67aGUNJALA GONDI LETTER EEdAI
11D6AaGUNJALA GONDI LETTER OOdAUdYAdVAdBAdBHAdMAdKAdKHAdTAdTHAdLAdGAdGHAdDA
11D79aGUNJALA GONDI LETTER DHAdNAdCAdCHAdTTAdTTHAdLLAdJAdJHAdDDAdDDHAdNGAdPA
11D86aGUNJALA GONDI LETTER PHAdHAdRAdSAcVOWEL SIGN AAeIfIeUfU
11D90aGUNJALA GONDI VOWEL SIGN EEeAI
11D93aGUNJALA GONDI VOWEL SIGN OOeAUcSIGN ANUSVARAdVISARGAcVIRAMAcOM
11DA0aGUNJALA GONDI DIGIT ZEROdONEdTWOdTHREEdFOURdFIVEdSIXdSEVENdEIGHTdNINE
11EE0aMAKASAR LETTER KAcGAcNGAcPAcBAcMAcTAcDAcNAcCAcJAcNYAcYAcRAcLAcVAcSAcA
11EF2aMAKASAR ANGKAbVOWEL SIGN IdUdEdObPASSIMBANGbEND OF SECTION
11FB0aLISU LETTER YHA
11FC0aTAMIL FRACTION ONE THREE-HUNDRED-AND-TWENTIETHdONE-HUNDRED-AND-SIXTIETH
11FC2aTAMIL FRACTION ONE EIGHTIETHdSIXTY-FOURTHdFORTIETHdTHIRTY-SECOND
11FC6aTAMIL FRACTION THREE EIGHTIETHSdSIXTY-FOURTHScONE TWENTIETHdSIXTEENTH-1
11FCAaTAMIL FRACTION ONE SIXTEENTH-2dTENTHdEIGHTHcTHREE TWENTIETHSdSIXTEENTHS
11FCFaTAMIL FRACTION ONE FIFTHdQUARTERdHALF-1e2cTHREE QUARTERS
11FD4aTAMIL FRACTION DOWNSCALING FACTOR KIIZHbSIGN NELcCEVITUcAAZHAAKKU
11FD8aTAMIL SIGN UZHAKKUcMUUVUZHAKKUcKURUNIcPATHAKKUcMUKKURUNIcKAACUcPANAMcPON
11FE0aTAMIL SIGN VARAAKANcPAARAMcKUZHIcVELIbWET CULTIVATION SIGN
11FE5aTAMIL DRY CULTIVATION SIGNbLAND SIGNbSALT PAN SIGN
11FE8aTAMIL TRADITIONAL CREDIT SIGNcNUMBER SIGNbCURRENT SIGNbAND ODD SIGN
11FECaTAMIL SPENT SIGNbTOTAL SIGNbIN POSSESSION SIGNbSTARTING FROM SIGN
11FF0aTAMIL SIGN MUTHALIYAcVAKAIYARAA
11FFFaTAMIL PUNCTUATION END OF TEXTaCUNEIFORM SIGN Ad TIMES AeBADeGAN2 TENUeHA
12005aCUNEIFORM SIGN A TIMES IGIeLAGAR GUNUeMUSHeSAGcA2cABd TIMES ASH2
1200CaCUNEIFORM SIGN AB TIMES DUN3 GUNUeGALeGAN2 TENUeHAeIGI GUNUeIMINeLAGAB
12013aCUNEIFORM SIGN AB TIMES SHESHeU PLUS U PLUS UdGUNUcAB2d TIMES BALAG
12018aCUNEIFORM SIGN AB2 TIMES GAN2 TENUeME PLUS ENeSHA3eTAK4cADcAK
1201EaCUNEIFORM SIGN AK TIMES ERIN2eSHITA PLUS GISHcALd TIMES ALeDIM2eGISHeHA
12025aCUNEIFORM SIGN AL TIMES KAD3eKIeSHEeUSHcALANcALEPHcAMARd TIMES SHEcAN
1202EaCUNEIFORM SIGN AN OVER ANdTHREE TIMESdPLUS NAGA OPPOSING AN PLUS NAGA
12031aCUNEIFORM SIGN AN PLUS NAGA SQUAREDcANSHEcAPINcARADd TIMES KURcARKAB
12037aCUNEIFORM SIGN ASAL2cASHd ZIDA TENUdKABA TENU
1203BaCUNEIFORM SIGN ASH OVER ASH TUG2 OVER TUG2 TUG2 OVER TUG2 PAPfOVER ASH
1203DaCUNEIFORM SIGN ASH OVER ASH OVER ASH CROSSING ASH OVER ASH OVER ASHcASH2
1203FaCUNEIFORM SIGN ASHGABcBAdDcBAG3cBAHAR2cBALd OVER BALcBALAGcBARdA2cBI
1204AaCUNEIFORM SIGN BI TIMES AeGAReIGI GUNUcBUd OVER BU ABfUNdCROSSING BU
12051aCUNEIFORM SIGN BULUGd OVER BULUGcBURd2cDAdGd KISIM5 TIMES A PLUS MASH
12058aCUNEIFORM SIGN DAG KISIM5 TIMES AMARfBALAGfBIfGAg PLUS MASHfGIgR2fGUDfHA
12061aCUNEIFORM SIGN DAG KISIM5 TIMES IRg PLUS LUfKAKfLAfLUg PLUS MASH2fLUMfNE
12069aCUNEIFORM SIGN DAG KISIM5 TIMES PAP PLUS PAPfSIfTAK4fU2 PLUS GIR2fUSH
1206EaCUNEIFORM SIGN DAMcDARdA3cDARA4cDIdBcDIMd TIMES SHEcDIM2cDIN
12078aCUNEIFORM SIGN DIN KASKAL U GUNU DISHcDISHcDUd OVER DUdGUNUdSHESHIGcDUB
1207FaCUNEIFORM SIGN DUB TIMES ESH2cDUB2cDUGdUDcDUHcDUNd3d GUNUe GUNUcDUN4
12089aCUNEIFORM SIGN DUR2cEd TIMES PAPdOVER E NUN OVER NUNcE2
1208EaCUNEIFORM SIGN E2 TIMES A PLUS HA PLUS DAeGAReMIeSALeSHEeUcEDINcEGIRcEL
12097aCUNEIFORM SIGN ENd TIMES GAN2f TENUeMEdCROSSING ENdOPPOSING ENdSQUARED
1209EaCUNEIFORM SIGN ERENcERIN2cESH2cEZENd TIMES Af PLUS LALh TIMES LALeANeBAD
120A7aCUNEIFORM SIGN EZEN TIMES DUN3 GUNUg GUNUeHAf GUNUeIGI GUNUeKASKAL
120ADaCUNEIFORM SIGN EZEN TIMES KASKAL SQUAREDeKU3eLAfL TIMES LALeLIeLUeU2eUD
120B5aCUNEIFORM SIGN GAd GUNUcGA2d TIMES A PLUS DA PLUS HAgHAgIGI
120BBaCUNEIFORM SIGN GA2 TIMES AB2 TENU PLUS TABeANeASHf2 PLUS GALeBAD
120C0aCUNEIFORM SIGN GA2 TIMES BAR PLUS RAeBURf PLUS RAeDAeDIfM TIMES SHEeDUB
120C7aCUNEIFORM SIGN GA2 TIMES ELf PLUS LAeENf TIMES GAN2 TENUeGAN2 TENUeGAR
120CDaCUNEIFORM SIGN GA2 TIMES GIf4f PLUS AeGIR2 PLUS SUeHA PLUS LU PLUS ESH2
120D2aCUNEIFORM SIGN GA2 TIMES HALf PLUS LAeHI PLUS LIeHUB2eIGI GUNU
120D7aCUNEIFORM SIGN GA2 TIMES ISH PLUS HU PLUS ASHeKAKeKASKALeKIDf PLUS LAL
120DCaCUNEIFORM SIGN GA2 TIMES KU3 PLUS ANeLAeME PLUS ENeMIeNUNf OVER NUNePA
120E3aCUNEIFORM SIGN GA2 TIMES SALeSAReSHEf PLUS TUReSHIDeSUMeTAK4eUfD
120ECaCUNEIFORM SIGN GA2 TIMES UD PLUS DUdOVER GA2cGABAd CROSSING GABAcGAD
120F1aCUNEIFORM SIGN GAD OVER GAD GAR OVER GARcGALd GAD OVER GAD GAR OVER GAR
120F4aCUNEIFORM SIGN GALAMcGAMcGANd2d TENUdOVER GAN2dCROSSING GAN2cGARd3
120FDaCUNEIFORM SIGN GASHANcGESHTINd TIMES KURcGId TIMES EeUdCROSSING GIcGI4
12105aCUNEIFORM SIGN GI4 OVER GI4dCROSSING GI4cGIDIMcGIR2d GUNUcGIR3
1210BaCUNEIFORM SIGN GIR3 TIMES A PLUS IGIeGAN2 TENUeIGIeLU PLUS IGIePAcGISAL
12111aCUNEIFORM SIGN GISHd CROSSING GISHdTIMES BADeTAK4dTENUcGUd CROSSING GU
12118aCUNEIFORM SIGN GU2d TIMES KAKf TIMES IGI GUNUeNUNeSAL PLUS TUG2dGUNUcGUD
1211FaCUNEIFORM SIGN GUD TIMES A PLUS KUReKURdOVER GUD LUGALcGULcGUM
12124aCUNEIFORM SIGN GUM TIMES SHEcGURd7cGURUNcGURUSHcHAd TENUdGUNUcHALcHI
1212EaCUNEIFORM SIGN HI TIMES ASHf2eBADeDISHeGADeKINeNUNeSHEeUcHUdB2d TIMES AN
1213AaCUNEIFORM SIGN HUB2 TIMES HALeKASKALeLISHeUDcHUL2cId AcIBcIDIM
12143aCUNEIFORM SIGN IDIM OVER IDIM BURfSQUAREDcIGdId DIBdRI
12149aCUNEIFORM SIGN IGI OVER IGI SHIR OVER SHIR UD OVER UDdGUNUcIL
1214CaCUNEIFORM SIGN IL TIMES GAN2 TENUcIL2cIMd TIMES TAK4dCROSSING IM
12151aCUNEIFORM SIGN IM OPPOSING IMdSQUAREDcIMINcINcIRcISHcKAd TIMES AfD
1215AaCUNEIFORM SIGN KA TIMES AD PLUS KU3eASH2eBADeBALAGeBAReBIeERIN2eESH2eGA
12163aCUNEIFORM SIGN KA TIMES GALeGAN2 TENUeGARf PLUS SHA3 PLUS AeGIfR2
12169aCUNEIFORM SIGN KA TIMES GISH PLUS SARfCROSSING GISHeGUfR7eIGIeIMeKAKeKI
12171aCUNEIFORM SIGN KA TIMES KIDeLIeLUeMEf PLUS DUgGIgTEeMIf PLUS NUNUZeNE
1217BaCUNEIFORM SIGN KA TIMES NUNePIeRUeSAfReSHAeSHEeSHIDeSHUeSIGeSUHUReTAReU
12188aCUNEIFORM SIGN KA TIMES U2eUDeUMUM TIMES PAeUSHeZIcKA2d CROSSING KA2cKAB
12190aCUNEIFORM SIGN KAD2cKAD3cKAD4cKAD5d OVER KAD5cKAKd TIMES IGI GUNUcKAL
12198aCUNEIFORM SIGN KAL TIMES BADdCROSSING KALcKAM2cKAM4cKASKAL
1219DaCUNEIFORM SIGN KASKAL LAGAB TIMES U OVER LAGAB TIMES U
1219EaCUNEIFORM SIGN KASKAL OVER KASKAL LAGAB TIMES U OVER LAGAB TIMES UcKESH2
121A0aCUNEIFORM SIGN KId TIMES BADeUfDcKIDcKINcKISALcKISHcKISIM5d OVER KISIM5
121AAaCUNEIFORM SIGN KUd OVER HI TIMES ASH2 KU OVER HI TIMES ASH2cKU3cKU4
121AEaCUNEIFORM SIGN KU4 VARIANT FORMcKU7cKULd GUNUcKUNcKURd OPPOSING KUR
121B5aCUNEIFORM SIGN KUSHU2cKWU318cLAdGABd TIMES Af PLUS DA PLUS HAgGARgLALeAL
121BEaCUNEIFORM SIGN LAGAB TIMES ANeASH ZIDA TENUeBADeBIeDAReENeGAfReGUD
121C7aCUNEIFORM SIGN LAGAB TIMES GUD PLUS GUDeHAfLeHI TIMES NUNeIGI GUNUeIM
121CDaCUNEIFORM SIGN LAGAB TIMES IM PLUS HAgLUeKIfNeKU3eKULf PLUS HI PLUS A
121D4aCUNEIFORM SIGN LAGAB TIMES LAGABeLISHeLUfLeMEf PLUS ENeMUSHeNE
121DCaCUNEIFORM SIGN LAGAB TIMES SHE PLUS SUMeSHITA PLUS GISH PLUS ERIN2hTENU
121DFaCUNEIFORM SIGN LAGAB TIMES SHU2f PLUS SHU2eSUMeTAGeTAK4
121E4aCUNEIFORM SIGN LAGAB TIMES TE PLUS A PLUS SU PLUS NAeUf PLUS AgU PLUS U
121E8aCUNEIFORM SIGN LAGAB TIMES U2 PLUS ASHeUDeUSHdSQUAREDcLAGARd TIMES SHE
121EEaCUNEIFORM SIGN LAGAR TIMES SHE PLUS SUMdGUNUe OVER LAGAR GUNU SHEcLAHSHU
121F2aCUNEIFORM SIGN LALd TIMES LALcLAMd TIMES KURf PLUS RUcLIdLcLIMMU2cLISH
121FBaCUNEIFORM SIGN LUd TIMES BADcLU2d TIMES ALeBADeESH2f TENUeGAN2 TENU
12203aCUNEIFORM SIGN LU2 TIMES HI TIMES BADeIMeKAD2eKAD3f PLUS ASHeKI
12209aCUNEIFORM SIGN LU2 TIMES LA PLUS ASHeLAGABeME PLUS ENeNEeNUeSI PLUS ASH
1220FaCUNEIFORM SIGN LU2 TIMES SIK2 PLUS BUeTUG2dTENUdCROSSING LU2
12213aCUNEIFORM SIGN LU2 OPPOSING LU2dSQUAREDdSHESHIGcLU3cLUGALd OVER LUGAL
12219aCUNEIFORM SIGN LUGAL OPPOSING LUGALdSHESHIGcLUHcLULcLUMd OVER LUM
1221FaCUNEIFORM SIGN LUM OVER LUM GAR OVER GARcMAd TIMES TAK4dGUNUcMA2cMAHcMAR
12226aCUNEIFORM SIGN MASHd2cMEdScMIdNcMUd OVER MUcMUGd GUNUcMUNSUBcMURGU2cMUSH
12233aCUNEIFORM SIGN MUSH TIMES AeKUReZAdOVER MUSHf TIMES A PLUS NA
12238aCUNEIFORM SIGN MUSH CROSSING MUSHcMUSH3d TIMES Af PLUS DIeDIdGUNUcNAd2
12240aCUNEIFORM SIGN NAGAd INVERTEDdTIMES SHU TENUdOPPOSING NAGAcNAGAR
12245aCUNEIFORM SIGN NAM NUTILLUcNAMd2cNEd TIMES AeUDdSHESHIGcNId TIMES EcNI2
1224FaCUNEIFORM SIGN NIMd TIMES GAN2 TENUeGAR PLUS GAN2 TENUcNINDA2d TIMES AN
12254aCUNEIFORM SIGN NINDA2 TIMES ASHf PLUS ASHeGUDeME PLUS GAN2 TENUeNEeNUN
1225AaCUNEIFORM SIGN NINDA2 TIMES SHEf PLUS A ANgASHh PLUS ASHeU2 PLUS ASHeUSH
12260aCUNEIFORM SIGN NISAGcNUd11cNUNd LAGAR TIMES GARfMASHfSAL
12267aCUNEIFORM SIGN NUN LAGAR TIMES SAL OVER NUN LAGAR TIMES SALfUSHdTENU
1226AaCUNEIFORM SIGN NUN OVER NUNdCROSSING NUNf LAGAR OVER LAGARcNUNUZ
1226EaCUNEIFORM SIGN NUNUZ AB2 TIMES ASHGABfBIfDUGfGUDfIGI GUNUfKAD3fLAfNE
12276aCUNEIFORM SIGN NUNUZ AB2 TIMES SILA3fU2dKISIM5 TIMES BIg UcPAdDcPANcPAP
1227EaCUNEIFORM SIGN PESH2cPId TIMES AfBeBIeBUeEeIfBeUf2dCROSSING PIcPIRIG
1228BaCUNEIFORM SIGN PIRIG TIMES KALeUDeZAdOPPOSING PIRIGcRAdBcRIcRUcSA
12294aCUNEIFORM SIGN SAG NUTILLUcSAGd TIMES AeDUfBeHAeKAKeKUReLUMeMIeNUNeSAL
122A0aCUNEIFORM SIGN SAG TIMES SHIDeTABeU2eUBeUMeUReUSHdOVER SAGdGUNUcSAL
122AAaCUNEIFORM SIGN SAL LAGAB TIMES ASH2cSANGA2cSARcSHAd3d TIMES AeBADeGISH
122B2aCUNEIFORM SIGN SHA3 TIMES NEeSHU2eTUReUf PLUS AcSHA6cSHAB6cSHAR2cSHEd HU
122BCaCUNEIFORM SIGN SHE OVER SHE GAD OVER GAD GAR OVER GAR
122BDaCUNEIFORM SIGN SHE OVER SHE TAB OVER TAB GAR OVER GARcSHEG9cSHENcSHESHd2
122C2aCUNEIFORM SIGN SHESHLAMcSHIDd TIMES AeIMcSHIMd TIMES AeBALeBULUGeDINeGAR
122CCaCUNEIFORM SIGN SHIM TIMES IGIf GUNUeKUSHU2eLULeMUGeSALcSHINIGcSHIRd TENU
122D5aCUNEIFORM SIGN SHIR OVER SHIR BUR OVER BURcSHITAcSHUd OVER INVERTED SHU
122D9aCUNEIFORM SIGN SHU2cSHUBURcSId GUNUcSIGd4d OVER SIG4 SHU2cSIK2cSILA3cSU
122E3aCUNEIFORM SIGN SU OVER SUcSUDd2cSUHURcSUMdASHcSURd9cTAd ASTERISK
122EDaCUNEIFORM SIGN TA TIMES HIeMIdGUNUcTAB
122F1aCUNEIFORM SIGN TAB OVER TAB NI OVER NI DISH OVER DISHdSQUAREDcTAG
122F4aCUNEIFORM SIGN TAG TIMES BIeGUDeSHEeSHUeTUG2eUDcTAK4cTARcTEd GUNUcTI
122FFaCUNEIFORM SIGN TI TENUcTILcTIRd TIMES TAK4dOVER TIR
12304aCUNEIFORM SIGN TIR OVER TIR GAD OVER GAD GAR OVER GARcTUdG2cTUKcTUMcTUR
1230AaCUNEIFORM SIGN TUR OVER TUR ZA OVER ZAcUd GUDdU U
1230EaCUNEIFORM SIGN U OVER U PA OVER PA GAR OVER GARfSUR OVER SUR
12310aCUNEIFORM SIGN U OVER U U REVERSED OVER U REVERSEDcU2cUBcUDd KUSHU2
12315aCUNEIFORM SIGN UD TIMES BADeMIeU PLUS U PLUS Uj GUNUdGUNUdSHESHIG
1231BaCUNEIFORM SIGN UD SHESHIG TIMES BADcUDUGcUMd TIMES LAGABeME PLUS DAeSHA3
12321aCUNEIFORM SIGN UM TIMES UcUMBINcUMUMd TIMES KASKALePAcUNd GUNUcUR
12329aCUNEIFORM SIGN UR CROSSING URdSHESHIGcUR2d TIMES A PLUS HAgNAeALeHAeNUN
12331aCUNEIFORM SIGN UR2 TIMES U2f PLUS ASHgBIcUR4cURId3cURUd TIMES AfSHGAB
1233AaCUNEIFORM SIGN URU TIMES BAReDUNeGAfLeGAN2 TENUeGAReGUeHAeIGIeIMeISHeKI
12346aCUNEIFORM SIGN URU TIMES LUMeMINePAeSHEeSIG4eTUeU PLUS GUDeUDeURUDA
1234FaCUNEIFORM SIGN URUDAd TIMES UcUSHd TIMES AeKUfReTAK4cUSHXcUSH2cUSHUMX
12359aCUNEIFORM SIGN UTUKIcUZ3d TIMES KASKALcUZUcZAd TENUdSQUARED TIMES KUR
12360aCUNEIFORM SIGN ZAGcZAMXcZE2cZId OVER ZIcZI3cZIBd KABA TENUcZIGcZIZ2cZUd5
1236CaCUNEIFORM SIGN ZU5 TIMES AcZUBURcZUMcKAP ELAMITEcAB TIMES NUN
12371aCUNEIFORM SIGN AB2 TIMES AcAMAR TIMES KUGcDAG KISIM5 TIMES U2 PLUS MASH
12374aCUNEIFORM SIGN DAG3cDISH PLUS SHUcDUB TIMES SHEcEZEN TIMES GUDeSHE
12379aCUNEIFORM SIGN GA2 TIMES AN PLUS KAK PLUS AeASH2cGE22cGIGcHUSH
1237EaCUNEIFORM SIGN KA TIMES ANSHEeASH3eGISHeGUDeHI TIMES ASH2eLUMePAeSHULeTU
12387aCUNEIFORM SIGN KA TIMES UR2cLAGAB TIMES GIcLU2 SHESHIG TIMES BAD
1238AaCUNEIFORM SIGN LU2 TIMES ESH2 PLUS LALeSHUcMESHcMUSH3 TIMES ZAcNA4cNINd9
12391aCUNEIFORM SIGN NINDA2 TIMES BALeGIcNU11 ROTATED NINETY DEGREES
12394aCUNEIFORM SIGN PESH2 ASTERISKcPIR2cSAG TIMES IGI GUNUcTI2cUM TIMES ME
12399aCUNEIFORM SIGN U U
12400aCUNEIFORM NUMERIC SIGN TWO ASHdTHREE ASHdFOUR ASHdFIVE ASHdSIX ASH
12405aCUNEIFORM NUMERIC SIGN SEVEN ASHdEIGHT ASHdNINE ASHdTHREE DISHdFOUR DISH
1240AaCUNEIFORM NUMERIC SIGN FIVE DISHdSIX DISHdSEVEN DISHdEIGHT DISH
1240EaCUNEIFORM NUMERIC SIGN NINE DISHdFOUR UdFIVE UdSIX UdSEVEN UdEIGHT U
12414aCUNEIFORM NUMERIC SIGN NINE UdONE GESH2dTWO GESH2dTHREE GESH2dFOUR GESH2
12419aCUNEIFORM NUMERIC SIGN FIVE GESH2dSIX GESH2dSEVEN GESH2dEIGHT GESH2
1241DaCUNEIFORM NUMERIC SIGN NINE GESH2dONE GESHUdTWO GESHUdTHREE GESHU
12421aCUNEIFORM NUMERIC SIGN FOUR GESHUdFIVE GESHUdTWO SHAR2dTHREE SHAR2
12425aCUNEIFORM NUMERIC SIGN THREE SHAR2 VARIANT FORMdFOUR SHAR2dFIVE SHAR2
12428aCUNEIFORM NUMERIC SIGN SIX SHAR2dSEVEN SHAR2dEIGHT SHAR2dNINE SHAR2
1242CaCUNEIFORM NUMERIC SIGN ONE SHARUdTWO SHARUdTHREE SHARUf VARIANT FORM
12430aCUNEIFORM NUMERIC SIGN FOUR SHARUdFIVE SHARUdSHAR2 TIMES GAL PLUS DISH
12433aCUNEIFORM NUMERIC SIGN SHAR2 TIMES GAL PLUS MINdONE BURUdTWO BURU
12436aCUNEIFORM NUMERIC SIGN THREE BURUf VARIANT FORMdFOUR BURUdFIVE BURU
1243AaCUNEIFORM NUMERIC SIGN THREE VARIANT FORM ESH16gESH21
1243CaCUNEIFORM NUMERIC SIGN FOUR VARIANT FORM LIMMUh4gLIMMU AhB
12440aCUNEIFORM NUMERIC SIGN SIX VARIANT FORM ASH9dSEVEN VARIANT FORM IMIN3
12442aCUNEIFORM NUMERIC SIGN SEVEN VARIANT FORM IMIN AhB
12444aCUNEIFORM NUMERIC SIGN EIGHT VARIANT FORM USSUh3
12446aCUNEIFORM NUMERIC SIGN NINE VARIANT FORM ILIMMUh3gILIMMU4gILIMMU A
1244AaCUNEIFORM NUMERIC SIGN TWO ASH TENUdTHREE ASH TENUdFOUR ASH TENU
1244DaCUNEIFORM NUMERIC SIGN FIVE ASH TENUdSIX ASH TENUdONE BAN2dTWO BAN2
12451aCUNEIFORM NUMERIC SIGN THREE BAN2dFOUR BAN2f VARIANT FORMdFIVE BAN2
12455aCUNEIFORM NUMERIC SIGN FIVE BAN2 VARIANT FORMdNIGIDAMINdNIGIDAESH
12458aCUNEIFORM NUMERIC SIGN ONE ESHE3dTWO ESHE3dONE THIRD DISH
1245BaCUNEIFORM NUMERIC SIGN TWO THIRDS DISHdFIVE SIXTHS DISH
1245DaCUNEIFORM NUMERIC SIGN ONE THIRD VARIANT FORM A
1245EaCUNEIFORM NUMERIC SIGN TWO THIRDS VARIANT FORM AdONE EIGHTH ASH
12460aCUNEIFORM NUMERIC SIGN ONE QUARTER ASHdOLD ASSYRIAN ONE SIXTHgQUARTER
12463aCUNEIFORM NUMERIC SIGN ONE QUARTER GUReHALF GURdELAMITE ONE THIRD
12466aCUNEIFORM NUMERIC SIGN ELAMITE TWO THIRDSeFORTYeFIFTY
12469aCUNEIFORM NUMERIC SIGN FOUR U VARIANT FORMdFIVE U VARIANT FORM
1246BaCUNEIFORM NUMERIC SIGN SIX U VARIANT FORMdSEVEN U VARIANT FORM
1246DaCUNEIFORM NUMERIC SIGN EIGHT U VARIANT FORMdNINE U VARIANT FORM
12470aCUNEIFORM PUNCTUATION SIGN OLD ASSYRIAN WORD DIVIDERdVERTICAL COLON
12472aCUNEIFORM PUNCTUATION SIGN DIAGONAL COLONeTRICOLONeQUADCOLON
12480aCUNEIFORM SIGN AB TIMES NUN TENUeSHU2cAD TIMES ESH2cBAD TIMES DISH TENU
12484aCUNEIFORM SIGN BAHAR2 TIMES AB2eNIeZAcBU OVER BU TIMES NA2cDA TIMES TAK4
12489aCUNEIFORM SIGN DAG TIMES KURcDIM TIMES IGIeU U UcDIM2 TIMES UD
1248DaCUNEIFORM SIGN DUG TIMES ANSHEeASHf AT LEFTeDINeDUNeERIN2eGAeGIfR2 GUNU
12496aCUNEIFORM SIGN DUG TIMES GISHeHAeHIeIGI GUNUeKASKALeKUReKUSHU2
1249DaCUNEIFORM SIGN DUG TIMES KUSHU2 PLUS KASKALeLAK-020eLAMf TIMES KUR
124A1aCUNEIFORM SIGN DUG TIMES LUH PLUS GISHeMASHeMESeMIeNIePIeSHEeSI GUNU
124A9aCUNEIFORM SIGN E2 TIMES KURePAPcERIN2 XcESH2 CROSSING ESH2
124ADaCUNEIFORM SIGN EZEN SHESHIG TIMES ASHfHIfIGI GUNUfLAgLfMEgSfSUdTIMES SU
124B6aCUNEIFORM SIGN GA2 TIMES BAHAR2eDIM GUNUeDUG TIMES IGI GUNUgKASKALeEREN
124BBaCUNEIFORM SIGN GA2 TIMES GAfR PLUS DIgNEeHA PLUS AeKUSHU2 PLUS KASKAL
124C0aCUNEIFORM SIGN GA2 TIMES LAMf TIMES KUReLUHeMUSHeNEf PLUS E2gGIeSHIM
124C8aCUNEIFORM SIGN GA2 TIMES ZIZ2cGABA ROTATED NINETY DEGREES
124CAaCUNEIFORM SIGN GESHTIN TIMES UcGISH TIMES GISH CROSSING GISH
124CCaCUNEIFORM SIGN GU2 TIMES IGI GUNUcGUD PLUS GISH TIMES TAK4cHA TENU GUNU
124CFaCUNEIFORM SIGN HI TIMES ASH OVER HI TIMES ASHcKA TIMES BUeKAeU U UeUR
124D4aCUNEIFORM SIGN LAGAB TIMES ZU OVER ZUcLAK-003d021d025d030d050d051d062
124DCaCUNEIFORM SIGN LAK-079 OVER LAK-079 GUNUd080d081 OVER LAK-081d092d130
124E1aCUNEIFORM SIGN LAK-142d210d219d220d225d228d238d265d266d343d347d348d383
124EEaCUNEIFORM SIGN LAK-384d390d441d449e TIMES GUfIGIfPAP PLUS LU3
124F5aCUNEIFORM SIGN LAK-449 TIMES PAP PLUS PAP PLUS LU3fU2 PLUS BAd450d457
124F9aCUNEIFORM SIGN LAK-470d483d490d492d493d495d550d608d617e TIMES ASHfBAD
12504aCUNEIFORM SIGN LAK-617 TIMES DUN3 GUNU GUNUfKU3fLAfTARfTEfU2fUDfURUDA
1250CaCUNEIFORM SIGN LAK-636d648e TIMES DUBfGAfIGIg GUNUfNI
12513aCUNEIFORM SIGN LAK-648 TIMES PAP PLUS PAP PLUS LU3fSHESH PLUS KIfUD
12516aCUNEIFORM SIGN LAK-648 TIMES URUDAd724d749cLU2 GUNU TIMES ASHdTIMES DISH
1251BaCUNEIFORM SIGN LU2 TIMES HALePAPf PLUS PAP PLUS LU3eTAK4cMI PLUS ZA7
12520aCUNEIFORM SIGN MUSH OVER MUSH TIMES GAgKAKcNINDA2 TIMES DIM GUNUeGISH
12524aCUNEIFORM SIGN NINDA2 TIMES GULeHIeKESH2eLAK-050eMASHePAP PLUS PAPeU
1252BaCUNEIFORM SIGN NINDA2 TIMES U PLUS UeURUDAcSAG GUNU TIMES HAdTIMES EN
1252FaCUNEIFORM SIGN SAG TIMES SHE AT LEFTeTAK4cSHA6 TENUcSHE OVER SHE
12533aCUNEIFORM SIGN SHE PLUS HUB2eNAM2eSARcSHU2 PLUS DUG TIMES NIeE2 TIMES AN
12538aCUNEIFORM SIGN SI TIMES TAK4cTAK4 PLUS SAGcTUM TIMES GAN2 TENU
1253BaCUNEIFORM SIGN TUM TIMES THREE DISHcUR2 INVERTEDdTIMES UD
1253EaCUNEIFORM SIGN URU TIMES DARA3eLAK-668eLU3cZA7cZU OVER ZU PLUS SAR
12543aCUNEIFORM SIGN ZU5 TIMES THREE DISH TENU
12F90aCYPRO-MINOAN SIGN CM001dCM002dCM004dCM005dCM006dCM007dCM008dCM009dCM010
12F99aCYPRO-MINOAN SIGN CM011dCM012eBdCM013dCM015dCM017dCM019dCM021dCM023
12FA2aCYPRO-MINOAN SIGN CM024dCM025dCM026dCM027dCM028dCM029dCM030dCM033dCM034
12FABaCYPRO-MINOAN SIGN CM035dCM036dCM037dCM038dCM039dCM040dCM041dCM044dCM046
12FB4aCYPRO-MINOAN SIGN CM047dCM049dCM050dCM051dCM052dCM053dCM054dCM055dCM056
12FBDaCYPRO-MINOAN SIGN CM058dCM059dCM060dCM061dCM062dCM063dCM064dCM066dCM067
12FC6aCYPRO-MINOAN SIGN CM068dCM069dCM070dCM071dCM072dCM073dCM074dCM075eB
12FCFaCYPRO-MINOAN SIGN CM076dCM078dCM079dCM080dCM081dCM082dCM083dCM084dCM085
12FD8aCYPRO-MINOAN SIGN CM086dCM087dCM088dCM089dCM090dCM091dCM092dCM094dCM095
12FE1aCYPRO-MINOAN SIGN CM096dCM097dCM098dCM099dCM100dCM101dCM102dCM103dCM104
12FEAaCYPRO-MINOAN SIGN CM105dCM107dCM108dCM109dCM110dCM112dCM114dCM301dCM302
13000aEGYPTIAN HIEROGLYPH A001cA002cA003cA004cA005dAcA006dAcA006BcA007cA008
1300BaEGYPTIAN HIEROGLYPH A009cA010cA011cA012cA013cA014dAcA015cA016cA017dA
13016aEGYPTIAN HIEROGLYPH A018cA019cA020cA021cA022cA023cA024cA025cA026cA027
13020aEGYPTIAN HIEROGLYPH A028cA029cA030cA031cA032dAcA033cA034cA035cA036cA037
1302BaEGYPTIAN HIEROGLYPH A038cA039cA040dAcA041cA042dAcA043dAcA044cA045dAcA046
13038aEGYPTIAN HIEROGLYPH A047cA048cA049cA050cA051cA052cA053cA054cA055cA056
13042aEGYPTIAN HIEROGLYPH A057cA058cA059cA060cA061cA062cA063cA064cA065cA066
1304CaEGYPTIAN HIEROGLYPH A067cA068cA069cA070cB001cB002cB003cB004cB005dAcB006
13057aEGYPTIAN HIEROGLYPH B007cB008cB009cC001cC002dAcC002BcC002CcC003cC004
13061aEGYPTIAN HIEROGLYPH C005cC006cC007cC008cC009cC010dAcC011cC012cC013cC014
1306CaEGYPTIAN HIEROGLYPH C015cC016cC017cC018cC019cC020cC021cC022cC023cC024
13076aEGYPTIAN HIEROGLYPH D001cD002cD003cD004cD005cD006cD007cD008dAcD009cD010
13081aEGYPTIAN HIEROGLYPH D011cD012cD013cD014cD015cD016cD017cD018cD019cD020
1308BaEGYPTIAN HIEROGLYPH D021cD022cD023cD024cD025cD026cD027dAcD028cD029cD030
13096aEGYPTIAN HIEROGLYPH D031dAcD032cD033cD034dAcD035cD036cD037cD038cD039
130A1aEGYPTIAN HIEROGLYPH D040cD041cD042cD043cD044cD045cD046dAcD047cD048dA
130ACaEGYPTIAN HIEROGLYPH D049cD050dAcD050BcD050CcD050DcD050EcD050FcD050G
130B5aEGYPTIAN HIEROGLYPH D050HcD050IcD051cD052dAcD053cD054dAcD055cD056cD057
130C0aEGYPTIAN HIEROGLYPH D058cD059cD060cD061cD062cD063cD064cD065cD066cD067dA
130CBaEGYPTIAN HIEROGLYPH D067BcD067CcD067DcD067EcD067FcD067GcD067HcE001cE002
130D4aEGYPTIAN HIEROGLYPH E003cE004cE005cE006cE007cE008dAcE009dAcE010cE011
130DFaEGYPTIAN HIEROGLYPH E012cE013cE014cE015cE016dAcE017dAcE018cE019cE020dA
130EBaEGYPTIAN HIEROGLYPH E021cE022cE023cE024cE025cE026cE027cE028dAcE029cE030
130F6aEGYPTIAN HIEROGLYPH E031cE032cE033cE034dAcE036cE037cE038cF001dAcF002
13101aEGYPTIAN HIEROGLYPH F003cF004cF005cF006cF007cF008cF009cF010cF011cF012
1310BaEGYPTIAN HIEROGLYPH F013dAcF014cF015cF016cF017cF018cF019cF020cF021dA
13116aEGYPTIAN HIEROGLYPH F022cF023cF024cF025cF026cF027cF028cF029cF030cF031dA
13121aEGYPTIAN HIEROGLYPH F032cF033cF034cF035cF036cF037dAcF038dAcF039cF040
1312CaEGYPTIAN HIEROGLYPH F041cF042cF043cF044cF045dAcF046dAcF047dAcF048cF049
13138aEGYPTIAN HIEROGLYPH F050cF051dAcF051BcF051CcF052cF053cG001cG002cG003
13142aEGYPTIAN HIEROGLYPH G004cG005cG006dAcG007dAcG007BcG008cG009cG010cG011dA
1314EaEGYPTIAN HIEROGLYPH G012cG013cG014cG015cG016cG017cG018cG019cG020dAcG021
13159aEGYPTIAN HIEROGLYPH G022cG023cG024cG025cG026dAcG027cG028cG029cG030cG031
13164aEGYPTIAN HIEROGLYPH G032cG033cG034cG035cG036dAcG037dAcG038cG039cG040
1316FaEGYPTIAN HIEROGLYPH G041cG042cG043dAcG044cG045dAcG046cG047cG048cG049
1317AaEGYPTIAN HIEROGLYPH G050cG051cG052cG053cG054cH001cH002cH003cH004cH005
13184aEGYPTIAN HIEROGLYPH H006dAcH007cH008cI001cI002cI003cI004cI005dAcI006
1318FaEGYPTIAN HIEROGLYPH I007cI008cI009dAcI010dAcI011dAcI012cI013cI014cI015
1319BaEGYPTIAN HIEROGLYPH K001cK002cK003cK004cK005cK006cK007cK008cL001cL002dA
131A6aEGYPTIAN HIEROGLYPH L003cL004cL005cL006dAcL007cL008cM001dAcM001BcM002
131B1aEGYPTIAN HIEROGLYPH M003dAcM004cM005cM006cM007cM008cM009cM010dAcM011
131BCaEGYPTIAN HIEROGLYPH M012dAcM012BcM012CcM012DcM012EcM012FcM012GcM012H
131C5aEGYPTIAN HIEROGLYPH M013cM014cM015dAcM016dAcM017dAcM018cM019cM020cM021
131D1aEGYPTIAN HIEROGLYPH M022dAcM023cM024dAcM025cM026cM027cM028dAcM029cM030
131DDaEGYPTIAN HIEROGLYPH M031dAcM032cM033dAcM033BcM034cM035cM036cM037cM038
131E8aEGYPTIAN HIEROGLYPH M039cM040dAcM041cM042cM043cM044cN001cN002cN003cN004
131F3aEGYPTIAN HIEROGLYPH N005cN006cN007cN008cN009cN010cN011cN012cN013cN014
131FDaEGYPTIAN HIEROGLYPH N015cN016cN017cN018dAcN018BcN019cN020cN021cN022cN023
13208aEGYPTIAN HIEROGLYPH N024cN025dAcN026cN027cN028cN029cN030cN031cN032cN033
13213aEGYPTIAN HIEROGLYPH N033AcN034dAcN035dAcN036cN037dAcN038cN039cN040cN041
1321FaEGYPTIAN HIEROGLYPH N042cNL001cNL002cNL003cNL004cNL005dAcNL006cNL007
13228aEGYPTIAN HIEROGLYPH NL008cNL009cNL010cNL011cNL012cNL013cNL014cNL015
13230aEGYPTIAN HIEROGLYPH NL016cNL017dAcNL018cNL019cNL020cNU001cNU002cNU003
13239aEGYPTIAN HIEROGLYPH NU004cNU005cNU006cNU007cNU008cNU009cNU010dAcNU011dA
13243aEGYPTIAN HIEROGLYPH NU012cNU013cNU014cNU015cNU016cNU017cNU018dAcNU019
1324CaEGYPTIAN HIEROGLYPH NU020cNU021cNU022dAcO001dAcO002cO003cO004cO005dA
13257aEGYPTIAN HIEROGLYPH O006dAcO006BcO006CcO006DcO006EcO006FcO007cO008cO009
13261aEGYPTIAN HIEROGLYPH O010dAcO010BcO010CcO011cO012cO013cO014cO015cO016
1326BaEGYPTIAN HIEROGLYPH O017cO018cO019dAcO020dAcO021cO022cO023cO024dAcO025dA
13278aEGYPTIAN HIEROGLYPH O026cO027cO028cO029dAcO030dAcO031cO032cO033dAcO034
13284aEGYPTIAN HIEROGLYPH O035cO036dAcO036BcO036CcO036DcO037cO038cO039cO040
1328EaEGYPTIAN HIEROGLYPH O041cO042cO043cO044cO045cO046cO047cO048cO049cO050dA
13299aEGYPTIAN HIEROGLYPH O050BcO051cP001dAcP002cP003dAcP004cP005cP006cP007
132A4aEGYPTIAN HIEROGLYPH P008cP009cP010cP011cQ001cQ002cQ003cQ004cQ005cQ006
132AEaEGYPTIAN HIEROGLYPH Q007cR001cR002dAcR003dAcR003BcR004cR005cR006cR007
132B9aEGYPTIAN HIEROGLYPH R008cR009cR010dAcR011cR012cR013cR014cR015cR016dA
132C4aEGYPTIAN HIEROGLYPH R017cR018cR019cR020cR021cR022cR023cR024cR025cR026
132CEaEGYPTIAN HIEROGLYPH R027cR028cR029cS001cS002dAcS003cS004cS005cS006dA
132D9aEGYPTIAN HIEROGLYPH S007cS008cS009cS010cS011cS012cS013cS014dAcS014BcS015
132E4aEGYPTIAN HIEROGLYPH S016cS017dAcS018cS019cS020cS021cS022cS023cS024cS025
132EFaEGYPTIAN HIEROGLYPH S026dAcS026BcS027cS028cS029cS030cS031cS032cS033cS034
132FAaEGYPTIAN HIEROGLYPH S035dAcS036cS037cS038cS039cS040cS041cS042cS043cS044
13305aEGYPTIAN HIEROGLYPH S045cS046cT001cT002cT003dAcT004cT005cT006cT007dA
13310aEGYPTIAN HIEROGLYPH T008dAcT009dAcT010cT011dAcT012cT013cT014cT015cT016dA
1331DaEGYPTIAN HIEROGLYPH T017cT018cT019cT020cT021cT022cT023cT024cT025cT026
13327aEGYPTIAN HIEROGLYPH T027cT028cT029cT030cT031cT032dAcT033dAcT034cT035
13332aEGYPTIAN HIEROGLYPH T036cU001cU002cU003cU004cU005cU006dAcU006BcU007cU008
1333DaEGYPTIAN HIEROGLYPH U009cU010cU011cU012cU013cU014cU015cU016cU017cU018
13347aEGYPTIAN HIEROGLYPH U019cU020cU021cU022cU023dAcU024cU025cU026cU027cU028
13352aEGYPTIAN HIEROGLYPH U029dAcU030cU031cU032dAcU033cU034cU035cU036cU037
1335DaEGYPTIAN HIEROGLYPH U038cU039cU040cU041cU042cV001dAcV001BcV001CcV001D
13367aEGYPTIAN HIEROGLYPH V001EcV001FcV001GcV001HcV001IcV002dAcV003cV004cV005
13371aEGYPTIAN HIEROGLYPH V006cV007dAcV007BcV008cV009cV010cV011dAcV011BcV011C
1337CaEGYPTIAN HIEROGLYPH V012dAcV012BcV013cV014cV015cV016cV017cV018cV019cV020
13387aEGYPTIAN HIEROGLYPH V020AcV020BcV020CcV020DcV020EcV020FcV020GcV020H
1338FaEGYPTIAN HIEROGLYPH V020IcV020JcV020KcV020LcV021cV022cV023dAcV024cV025
13399aEGYPTIAN HIEROGLYPH V026cV027cV028dAcV029dAcV030dAcV031dAcV032cV033dA
133A6aEGYPTIAN HIEROGLYPH V034cV035cV036cV037dAcV038cV039cV040dAcW001cW002
133B1aEGYPTIAN HIEROGLYPH W003dAcW004cW005cW006cW007cW008cW009dAcW010dAcW011
133BDaEGYPTIAN HIEROGLYPH W012cW013cW014dAcW015cW016cW017dAcW018dAcW019cW020
133C9aEGYPTIAN HIEROGLYPH W021cW022cW023cW024dAcW025cX001cX002cX003cX004dA
133D4aEGYPTIAN HIEROGLYPH X004BcX005cX006dAcX007cX008dAcY001dAcY002cY003cY004
133E0aEGYPTIAN HIEROGLYPH Y005cY006cY007cY008cZ001cZ002dAcZ002BcZ002CcZ002D
133EAaEGYPTIAN HIEROGLYPH Z003dAcZ003BcZ004dAcZ005dAcZ006cZ007cZ008cZ009cZ010
133F6aEGYPTIAN HIEROGLYPH Z011cZ012cZ013cZ014cZ015dAcZ015BcZ015CcZ015DcZ015E
13400aEGYPTIAN HIEROGLYPH Z015FcZ015GcZ015HcZ015IcZ016dAcZ016BcZ016CcZ016D
13409aEGYPTIAN HIEROGLYPH Z016EcZ016FcZ016GcZ016HcAA001cAA002cAA003cAA004
13411aEGYPTIAN HIEROGLYPH AA005cAA006cAA007dAcAA007BcAA008cAA009cAA010cAA011
1341AaEGYPTIAN HIEROGLYPH AA012cAA013cAA014cAA015cAA016cAA017cAA018cAA019
13422aEGYPTIAN HIEROGLYPH AA020cAA021cAA022cAA023cAA024cAA025cAA026cAA027
1342AaEGYPTIAN HIEROGLYPH AA028cAA029cAA030cAA031cAA032
13430aEGYPTIAN HIEROGLYPH VERTICAL JOINERcHORIZONTAL JOINER
13432aEGYPTIAN HIEROGLYPH INSERT AT TOP STARTeBOTTOM STARTeTOP ENDeBOTTOM END
13436aEGYPTIAN HIEROGLYPH OVERLAY MIDDLEcBEGIN SEGMENTcEND SEGMENT
14400aANATOLIAN HIEROGLYPH A001cA002cA003cA004cA005cA006cA007cA008cA009cA010dA
1440BaANATOLIAN HIEROGLYPH A011cA012cA013cA014cA015cA016cA017cA018cA019cA020
14415aANATOLIAN HIEROGLYPH A021cA022cA023cA024cA025cA026dAcA027cA028cA029cA030
14420aANATOLIAN HIEROGLYPH A031cA032cA033cA034cA035cA036cA037cA038cA039dAcA040
1442BaANATOLIAN HIEROGLYPH A041dAcA042cA043cA044cA045dAcA046dAcA046BcA047cA048
14437aANATOLIAN HIEROGLYPH A049cA050cA051cA052cA053cA054cA055cA056cA057cA058
14441aANATOLIAN HIEROGLYPH A059cA060cA061cA062cA063cA064cA065cA066dAcA066B
1444BaANATOLIAN HIEROGLYPH A066CcA067cA068cA069cA070cA071cA072cA073cA074cA075
14455aANATOLIAN HIEROGLYPH A076cA077cA078cA079cA080cA081cA082cA083cA084cA085
1445FaANATOLIAN HIEROGLYPH A086cA087cA088cA089cA090cA091cA092cA093cA094cA095
14469aANATOLIAN HIEROGLYPH A096cA097dAcA098dAcA099cA100dAcA101dAcA102dAcA103
14476aANATOLIAN HIEROGLYPH A104dAcA104BcA104CcA105dAcA105BcA106cA107dAcA107B
14481aANATOLIAN HIEROGLYPH A107CcA108cA109cA110dAcA110BcA111cA112cA113cA114
1448BaANATOLIAN HIEROGLYPH A115dAcA116cA117cA118cA119cA120cA121cA122cA123cA124
14496aANATOLIAN HIEROGLYPH A125dAcA126cA127cA128cA129cA130cA131cA132cA133cA134
144A1aANATOLIAN HIEROGLYPH A135dAcA136cA137cA138cA139cA140cA141cA142cA143cA144
144ACaANATOLIAN HIEROGLYPH A145cA146cA147cA148cA149cA150cA151cA152cA153cA154
144B6aANATOLIAN HIEROGLYPH A155cA156cA157cA158cA159cA160cA161cA162cA163cA164
144C0aANATOLIAN HIEROGLYPH A165cA166cA167cA168cA169cA170cA171cA172cA173cA174
144CAaANATOLIAN HIEROGLYPH A175cA176cA177cA178cA179cA180cA181cA182cA183cA184
144D4aANATOLIAN HIEROGLYPH A185cA186cA187cA188cA189cA190cA191cA192cA193cA194
144DEaANATOLIAN HIEROGLYPH A195cA196cA197cA198cA199cA200cA201cA202dAcA202B
144E8aANATOLIAN HIEROGLYPH A203cA204cA205cA206cA207dAcA208cA209dAcA210cA211
144F3aANATOLIAN HIEROGLYPH A212cA213cA214cA215dAcA216dAcA217cA218cA219cA220
144FEaANATOLIAN HIEROGLYPH A221cA222cA223cA224cA225cA226cA227dAcA228cA229cA230
14509aANATOLIAN HIEROGLYPH A231cA232cA233cA234cA235cA236cA237cA238cA239cA240
14513aANATOLIAN HIEROGLYPH A241cA242cA243cA244cA245cA246cA247cA248cA249cA250
1451DaANATOLIAN HIEROGLYPH A251cA252cA253cA254cA255cA256cA257cA258cA259cA260
14527aANATOLIAN HIEROGLYPH A261cA262cA263cA264cA265cA266cA267dAcA268cA269cA270
14532aANATOLIAN HIEROGLYPH A271cA272cA273cA274cA275cA276cA277cA278cA279cA280
1453CaANATOLIAN HIEROGLYPH A281cA282cA283cA284cA285cA286cA287cA288cA289dAcA290
14547aANATOLIAN HIEROGLYPH A291cA292cA293cA294dAcA295cA296cA297cA298cA299dA
14552aANATOLIAN HIEROGLYPH A300cA301cA302cA303cA304cA305cA306cA307cA308cA309dA
1455DaANATOLIAN HIEROGLYPH A310cA311cA312cA313cA314cA315cA316cA317cA318cA319
14567aANATOLIAN HIEROGLYPH A320cA321cA322cA323cA324cA325cA326cA327cA328cA329dA
14572aANATOLIAN HIEROGLYPH A330cA331cA332AcA332BcA332CcA333cA334cA335cA336dA
1457CaANATOLIAN HIEROGLYPH A336BcA336CcA337cA338cA339cA340cA341cA342cA343cA344
14586aANATOLIAN HIEROGLYPH A345cA346cA347cA348cA349cA350cA351cA352cA353cA354
14590aANATOLIAN HIEROGLYPH A355cA356cA357cA358cA359dAcA360cA361cA362cA363cA364
1459BaANATOLIAN HIEROGLYPH A364AcA365cA366cA367cA368dAcA369cA370cA371dAcA372
145A6aANATOLIAN HIEROGLYPH A373cA374cA375cA376cA377cA378cA379cA380cA381dAcA382
145B1aANATOLIAN HIEROGLYPH A383 RA OR RIcA383AcA384cA385cA386dAcA387cA388cA389
145BAaANATOLIAN HIEROGLYPH A390cA391cA392cA393 EIGHTcA394cA395cA396cA397cA398
145C3aANATOLIAN HIEROGLYPH A399cA400cA401cA402cA403cA404cA405cA406cA407cA408
145CDaANATOLIAN HIEROGLYPH A409cA410 BEGIN LOGOGRAM MARK
145CFaANATOLIAN HIEROGLYPH A410A END LOGOGRAM MARKcA411cA412cA413cA414cA415
145D5aANATOLIAN HIEROGLYPH A416cA417cA418cA419cA420cA421cA422cA423cA424cA425
145DFaANATOLIAN HIEROGLYPH A426cA427cA428cA429cA430cA431cA432cA433cA434cA435
145E9aANATOLIAN HIEROGLYPH A436cA437cA438cA439cA440cA441cA442cA443cA444cA445
145F3aANATOLIAN HIEROGLYPH A446cA447cA448cA449cA450dAcA451cA452cA453cA454cA455
145FEaANATOLIAN HIEROGLYPH A456cA457dAcA458cA459cA460cA461cA462cA463cA464cA465
14609aANATOLIAN HIEROGLYPH A466cA467cA468cA469cA470cA471cA472cA473cA474cA475
14613aANATOLIAN HIEROGLYPH A476cA477cA478cA479cA480cA481cA482cA483cA484cA485
1461DaANATOLIAN HIEROGLYPH A486cA487cA488cA489cA490cA491cA492cA493cA494cA495
14627aANATOLIAN HIEROGLYPH A496cA497cA501cA502cA503cA504cA505cA506cA507cA508
14631aANATOLIAN HIEROGLYPH A509cA510cA511cA512cA513cA514cA515cA516cA517cA518
1463BaANATOLIAN HIEROGLYPH A519cA520cA521cA522cA523cA524cA525cA526cA527cA528
14645aANATOLIAN HIEROGLYPH A529cA530
16800aBAMUM LETTER PHASE-A NGKUE MFONeGBIEE FONePON MFON PIPAEMGBIEEgPIPAEMBA
16804aBAMUM LETTER PHASE-A NAA MFONeSHUENSHUETeTITA MFONeNZA MFON
16808aBAMUM LETTER PHASE-A SHINDA PA NJIePON PA NJI PIPAEMGBIEEhPIPAEMBA
1680BaBAMUM LETTER PHASE-A MAEMBGBIEEeTU MAEMBAeNGANGUeMAEMVEUXeMANSUAE
16810aBAMUM LETTER PHASE-A MVEUAENGAMeSEUNYAMeNTOQPENeKEUKEUTNDAeNKINDIeSUU
16816aBAMUM LETTER PHASE-A NGKUENZEUMeLAPAQeLET KUTeNTAP MFAAeMAEKEUPePASHAE
1681CaBAMUM LETTER PHASE-A GHEUAERAEePAMSHAEeMON NGGEUAETeNZUN MEUTeU YUQ NAE
16821aBAMUM LETTER PHASE-A GHEUAEGHEUAEeNTAP NTAAeSISAeMGBASAeMEUNJOMNDEUQ
16826aBAMUM LETTER PHASE-A MOOMPUQeKAFAePA LEERAEWAeNDA LEERAEWAePETeMAEMKPEN
1682CaBAMUM LETTER PHASE-A NIKAePUPeTUAEPeLUAEPeSONJAMeTEUTEUWENeMAENYIeKET
16834aBAMUM LETTER PHASE-A NDAANGGEUAETeKUOQeMOOMEUTeSHUMeLOMMAEeFIRIeROMeKPOQ
1683CaBAMUM LETTER PHASE-A SOQeMAP PIEETeSHIRAEeNTAPeSHOQ NSHUT YUM
16841aBAMUM LETTER PHASE-A NYIT MONGKEUAEQePAARAEeNKAARAEeUNKNOWNeNGGENeMAESI
16847aBAMUM LETTER PHASE-A NJAMeMBANYIeNYETeTEUAENeSOTePAAMeNSHIEEeMAEMeNYI
16850aBAMUM LETTER PHASE-A KAQeNSHAeVEEeLUeNENeNAQeMBAQdB NSHUETeTU MAEMGBIEE
16859aBAMUM LETTER PHASE-B SIEEeSET TUeLOM NTEUMeMBA MAELEEeKIEEMeYEURAE
1685FaBAMUM LETTER PHASE-B MBAARAEeKAMePEESHIeYAFU LEERAEWAeLAM NSHUT NYAM
16864aBAMUM LETTER PHASE-B NTIEE SHEUOQeNDU NJAAeGHEUGHEUAEMePITeTU NSIEE
16869aBAMUM LETTER PHASE-B SHET NJAQeSHEUAEQTUeMFON TEUAEQeMBIT MBAAKET
1686DaBAMUM LETTER PHASE-B NYI NTEUMeKEUPUQeGHEUGHENeKEUYEUXeLAANAEePARUMeVEUM
16874aBAMUM LETTER PHASE-B NGKINDI MVOPeNGGEU MBUeWUAETeSAKEUAEeTAAMeMEUQ
1687AaBAMUM LETTER PHASE-B NGGUOQf LARGEeMFIYAQeSUEeMBEURIeMONTIEENeNYAEMAE
16881aBAMUM LETTER PHASE-B PUNGAAMeMEUT NGGEETeFEUXeMBUOQeFEEeKEUAEM
16887aBAMUM LETTER PHASE-B MA NJEUAENAfNJUQAeLETeNGGAAMeNSENeMAeKIQeNGOM
1688FaBAMUM LETTER PHASE-C NGKUE MAEMBAeNZAeYUMeWANGKUOQeNGGENeNDEUAEREEeNGKAQ
16896aBAMUM LETTER PHASE-C GHARAEeMBEEKEETeGBAYIeNYIR MKPARAQ MEUNeNTU MBIT
1689BaBAMUM LETTER PHASE-C MBEUMePIRIEENeNDOMBUeMBAA CABBAGE-TREEeKEUSHEUAEP
168A0aBAMUM LETTER PHASE-C GHAPeKEUKAQeYU MUOMAEeNZEUMeMBUEeNSEUAENeMBITeYEUQ
168A8aBAMUM LETTER PHASE-C KPARAQeKAAeSEUXeNDIDAeTAASHAEeNJUEQeTITA YUEeSUAET
168B0aBAMUM LETTER PHASE-C NGGUAEN NYAMeVEUXeNANSANAQeMA KEUAERIeNTAAeNGGUON
168B6aBAMUM LETTER PHASE-C LAPeMBIRIEENeMGBASAQeNTEUNGBAeTEUTEUXeNGGUMeFUE
168BDaBAMUM LETTER PHASE-C NDEUTeNSAeNSHAQeBUNGeVEUAEPENeMBERAEeRUeNJAEMeLAM
168C6aBAMUM LETTER PHASE-C TITUAEPeNSUOT NGOMeNJEEEEeKETeNGGUeMAESIeMBUAEMeLU
168CEaBAMUM LETTER PHASE-C KUTeNJAMeNGOMeWUPeNGGUEETeNSOMeNTENeKUOP NKAARAE
168D6aBAMUM LETTER PHASE-C NSUNeNDAMeMA NSIEEeYAAeNDAPeSHUEQeSETFONeMBIeMAEMBA
168DFaBAMUM LETTER PHASE-C MBANYIeKEUSEUXeMBEUXeKEUMeMBAA PICKETeYUWOQeNJEUX
168E6aBAMUM LETTER PHASE-C MIEEeMUAEeSHIQeKEN LAWfFATIGUEeNGAQeNAQeLIQePINePEN
168F0aBAMUM LETTER PHASE-C TETdD MBUOeWAPeNJIeMFONeNJIEEeLIEEeNJEUTeNSHEE
168F9aBAMUM LETTER PHASE-D NGGAAMAEeNYAMeWUAENeNGKUNeSHEEeNGKAPeKEUAETMEUN
16900aBAMUM LETTER PHASE-D TEUTeSHEUAEeNJAPeSUEeKETeYAEMMAEeKUOMeSAPeMFEUT
16909aBAMUM LETTER PHASE-D NDEUXeMALEERIeMEUTeSEUAEQeYENeNJEUAEMeKEUOT MBUAE
16910aBAMUM LETTER PHASE-D NGKEURIeTUeGHAAeNGKYEEeFEUFEUAETeNDEEeMGBOFUM
16917aBAMUM LETTER PHASE-D LEUAEPeNDONeMONIeMGBEUNePUUTeMGBIEEeMFOeLUMeNSIEEP
16920aBAMUM LETTER PHASE-D MBAAeKWAETeNYETeTEUAENeSOTeYUWOQeKEUMeRAEMeTEEEE
16929aBAMUM LETTER PHASE-D NGKEUAEQeMFEUAEeNSIEETeKEUPePIPePEUTAEeNYUEeLET
16931aBAMUM LETTER PHASE-D NGGAAMeMFIEEeNGGWAENeYUOMePAPeYUOPeNDAMeNTEUMeSUAE
1693AaBAMUM LETTER PHASE-D KUNeNGGEUXeNGKIEEeTUOTeMEUNeKUQeNSUMeTEUNeMAENJET
16943aBAMUM LETTER PHASE-D NGGAPeLEUMeNGGUOMeNSHUTeNJUEQeGHEUAEeKUeREN OLDeTAE
1694CaBAMUM LETTER PHASE-D TOQeNYIeRIIeLEEEEeMEEEEeMeSUUeMUeSHIIeSHEUXeKYEEeNU
16958aBAMUM LETTER PHASE-D SHUeNTEEePEEeNIeSHOQePUQeMVOPeLOQeREN MUCHeTIeNTUU
16963aBAMUM LETTER PHASE-D MBAA SEVENeSAQeFAAdE NDAPeTOONeMBEUMeLAPeVOMeLOON
1696CaBAMUM LETTER PHASE-E PAAeSOMeRAQeNSHUOPeNDUNePUAEeTAMeNGKAeKPEUXeWUOeSEE
16977aBAMUM LETTER PHASE-E NGGEUAETePAAMeTOOeKUOPeLOMeNSHIEEeNGOPeMAEMeNGKEUX
16980aBAMUM LETTER PHASE-E NGOQeNSHUEeRIMGBAeNJEUXePEEMeSAAeNGGURAEeMGBAeGHEUX
16989aBAMUM LETTER PHASE-E NGKEUAEMeNJAEMLIeMAPeLOOTeNGGEEEEeNDIQeTAEN NTEUM
16990aBAMUM LETTER PHASE-E SETePUMeNDAA SOFTNESSeNGGUAESHAE NYAMeYIEEeGHEUN
16996aBAMUM LETTER PHASE-E TUAEeYEUAEePOeTUMAEeKEUAEeSUAENeTEUAEQeVEUAEeWEUX
1699FaBAMUM LETTER PHASE-E LAAMePUeTAAQeGHAAMAEeNGEUREUTeSHEUAEQeMGBENeMBEE
169A7aBAMUM LETTER PHASE-E NZAQeNKOMeGBETeTUMeKUETeYAPeNYI CLEAVEReYITeMFEUQ
169B0aBAMUM LETTER PHASE-E NDIAQePIEEQeYUEQeLEUAEMeFUEeGBEUXeNGKUPeKETeMAE
169B9aBAMUM LETTER PHASE-E NGKAAMIeGHETeFAeNTUMePEUTeYEUMeNGGEUAEeNYI BETWEEN
169C1aBAMUM LETTER PHASE-E NZUQePOONeMIEEeFUETeNAEeMUAEeGHEUAEeFU IeMVIePUAQ
169CBaBAMUM LETTER PHASE-E NGKUMeKUTePIETeNTAPeYEUAETeNGGUPePA PEOPLEeFU CALL
169D3aBAMUM LETTER PHASE-E FOMeNJEEeAeTOQeOeIeLAQePA PLURALeTAAeTAQ
169DDaBAMUM LETTER PHASE-E NDAA MY HOUSEeSHIQeYEUXeNGUAEeYUAENeYOQ SWIMMING
169E3aBAMUM LETTER PHASE-E YOQ COVEReYUQeYUNeKEUXePEUXeNJEE EPOCHePUEeWUEeFEE
169ECaBAMUM LETTER PHASE-E VEEeLUeMIeREUXeRAEeNGUAETeNGAeSHOfQeFU REMEDYeNAePI
169F8aBAMUM LETTER PHASE-E LOQeKOeMENeMAfQeTEUeKIeMONeTENeFAQeGHOMdF KAeUeKU
16A06aBAMUM LETTER PHASE-F EEeREEeTAEeNYIeLAeRIIeRIEEeMEEEEeTAAeNDAAeNJAEMeM
16A12aBAMUM LETTER PHASE-F SUUeSHIIeSIeSEUXeKYEEeKETeNUAEeNUeNJUAEeYOQeSHUeYA
16A1EaBAMUM LETTER PHASE-F NSHAePEUXeNTEEeWUEePEEeRUeNIeREUXeKENeNGKWAENeNGGA
16A29aBAMUM LETTER PHASE-F SHOePUAEeFOMeWAeLIeLOQeKOeMBENeRENeMAeMOeMBAAeTET
16A36aBAMUM LETTER PHASE-F KPAeSAMBAeVUEQ
16A40aMRO LETTER TAcNGIcYOcMIMcBAcDAcAcPHIcKHAIcHAOcDAIcCHUcKEAAEcOLcMAEMcNIN
16A50aMRO LETTER PAcOOcOcROcSHIcTHEAcEAcWAcEcKOcLANcLAcHAIcRIcTEK
16A60aMRO DIGIT ZEROcONEcTWOcTHREEcFOURcFIVEcSIXcSEVENcEIGHTcNINE
16A6EaMRO DANDAbDOUBLE DANDAaTANGSA LETTER OZcOCcOQcOXcAZcACcAQcAXcVZcVCcVQcVX
16A7CaTANGSA LETTER EZcECcEQcEXcIZcICcIQcIXcUZcUCcUQcUXcAWZcAWCcAWQcAWXcUIZ
16A8DaTANGSA LETTER UICcUIQcUIXcFINAL NGcLONG UEXcSHORT UEZdAWXcUECcUEZcUEQ
16A97aTANGSA LETTER UEXcUIUZcUIUCcUIUQcUIUXcMZcMCcMQcMXcKAcKHAcGAcNGAcSAcYAcWA
16AA7aTANGSA LETTER PAcNYAcPHAcBAcMAcNAcHAcLAcHTAcTAcDAcRAcNHAcSHAcCAcTSAcGHA
16AB8aTANGSA LETTER HTTAcTHAcXAcFAcDHAcCHAcZA
16AC0aTANGSA DIGIT ZEROcONEcTWOcTHREEcFOURcFIVEcSIXcSEVENcEIGHTcNINE
16AD0aBASSA VAH LETTER ENNIdKAdSEdFAdMBEdYIEdGAHdDHIIdKPAHdJOdHWAHdWAdZOdGBU
16ADEaBASSA VAH LETTER DOdCEdUWUdTOdBAdVUdYEINdPAdWADDAdAdOeOdUdEEdEdI
16AF0aBASSA VAH COMBINING HIGH TONEdLOW TONEdMID TONEdLOW-MID TONE
16AF4aBASSA VAH COMBINING HIGH-LOW TONEcFULL STOP
16B00aPAHAWH HMONG VOWEL KEEBdKEEVdKIBdKIVdKAUBdKAUVdKUBdKUVdKEBdKEVdKAIBdKAIV
16B0CaPAHAWH HMONG VOWEL KOOBdKOOVdKAWBdKAWVdKUABdKUAVdKOBdKOVdKIABdKIAVdKAB
16B17aPAHAWH HMONG VOWEL KAVdKWBdKWVdKAABdKAAVcCONSONANT VAUdNTSAUdLAUdHAU
16B20aPAHAWH HMONG CONSONANT NLAUdRAUdNKAUdQHAUdYAUdHLAUdMAUdCHAUdNCHAUdHNAU
16B2AaPAHAWH HMONG CONSONANT PLHAUdNTHAUdNAUdAUdXAUdCAUcMARK CIM TUBeSOeKES
16B33aPAHAWH HMONG MARK CIM KHAVeSUAMeHOMeTAUMcSIGN VOS THOMeTSHAB CEEB
16B39aPAHAWH HMONG SIGN CIM CHEEMdVOS THIABeFEEMdXYEEM NTXIVeRHOeTOVeFAIB
16B40aPAHAWH HMONG SIGN VOS SEEVdMEEJ SUABdVOS NRUAdIB YAMdXAUSdCIM TSOV ROG
16B50aPAHAWH HMONG DIGIT ZEROdONEdTWOdTHREEdFOURdFIVEdSIXdSEVENdEIGHTdNINE
16B5BaPAHAWH HMONG NUMBER TENSdHUNDREDSdTEN THOUSANDSdMILLIONS
16B5FaPAHAWH HMONG NUMBER HUNDRED MILLIONSdTEN BILLIONSdTRILLIONS
16B63aPAHAWH HMONG SIGN VOS LUBdXYOOdHLIdTHIRD-STAGE HLIdZWJ THAJdHNUBdNQIG
16B6AaPAHAWH HMONG SIGN XIABdNTUJdAVdTXHEEJ CEEVdMEEJ TSEEBdTAUdLOSdMUS
16B72aPAHAWH HMONG SIGN CIM HAIS LUS NTOG NTOGeCUAM TSHOOJeTXWVf CHWVePUB DAWB
16B77aPAHAWH HMONG SIGN CIM NRES TOS
16B7DaPAHAWH HMONG CLAN SIGN TSHEEJeYEEGeLISeLAUJeXYOOJeKOOeHAWJeMUASeTHOJ
16B86aPAHAWH HMONG CLAN SIGN TSABePHABeKHABeHAMeVAJeFAJeYAJeTSWBeKWMeVWJ
16E40aMEDEFAIDRIN CAPITAL LETTER MdSdVdWdATIUdZdKPdPdTdGdFdIdKdAdJdEdBdCdUdYU
16E54aMEDEFAIDRIN CAPITAL LETTER LdQdHPdNYdXdDdOEdNdRdOdAIdYbSMALL LETTER MdS
16E62aMEDEFAIDRIN SMALL LETTER VdWdATIUdZdKPdPdTdGdFdIdKdAdJdEdBdCdUdYUdLdQdHP
16E77aMEDEFAIDRIN SMALL LETTER NYdXdDdOEdNdRdOdAIdYbDIGIT ZEROcONEcTWOcTHREE
16E84aMEDEFAIDRIN DIGIT FOURcFIVEcSIXcSEVENcEIGHTcNINEbNUMBER TENcELEVEN
16E8CaMEDEFAIDRIN NUMBER TWELVEcTHIRTEENcFOURTEENcFIFTEENcSIXTEENcSEVENTEEN
16E92aMEDEFAIDRIN NUMBER EIGHTEENcNINETEENbDIGIT ONE ALTERNATE FORM
16E95aMEDEFAIDRIN DIGIT TWO ALTERNATE FORMcTHREE ALTERNATE FORMbCOMMA
16E98aMEDEFAIDRIN FULL STOPbSYMBOL AIVAbEXCLAMATION OH
16F00aMIAO LETTER PAcBAcYI PAcPLAcMAcMHAcARCHAIC MAcFAcVAcVFAcTAcDAcYI TTAdTA
16F0EaMIAO LETTER TTAcDDAcNAcNHAcYI NNAcARCHAIC NAcNNAcNNHAcLAcLYAcLHAcLHYA
16F1AaMIAO LETTER TLHAcDLHAcTLHYAcDLHYAcKAcGAcYI KAcQAcQGAcNGAcNGHA
16F25aMIAO LETTER ARCHAIC NGAcHAcXAcGHAcGHHAcTSSAcDZZAcNYAcNYHAcTSHAcDZHA
16F30aMIAO LETTER YI TSHAdDZHAcREFORMED TSHAcSHAcSSAcZHAcZSHAcTSAcDZAcYI TSA
16F3AaMIAO LETTER SAcZAcZSAcZZAcZZSAcARCHAIC ZZAcZZYAcZZSYAcWAcAHcHHAcBRIcSYI
16F47aMIAO LETTER DZYIcTEcTSEcRTE
16F4FaMIAO SIGN CONSONANT MODIFIER BARbLETTER NASALIZATIONbSIGN ASPIRATION
16F52aMIAO SIGN REFORMED VOICINGdASPIRATIONbVOWEL SIGN AeAdAHHdANeGdOeOdWOdWdE
16F5EaMIAO VOWEL SIGN ENeGdOEYdIeAeNeGdIOdIEdIIdIUdINGdUeAeNeGdUUdUEIdUNGdYeI
16F73aMIAO VOWEL SIGN AEeEdERRdROUNDED ERRdERdROUNDED ERdAIdEIdAUdOUdNeGdUOG
16F80aMIAO VOWEL SIGN YUIdOGdOERdVWdIGdEAdIONGdUI
16F8FaMIAO TONE RIGHTcTOP RIGHTcABOVEcBELOWbLETTER TONE-2d3d4d5d6d7d8
16F9AaMIAO LETTER REFORMED TONE-1e2e4e5e6e8
16FE0aTANGUT ITERATION MARKaNUSHU ITERATION MARKaOLD CHINESE HOOK MARK
16FE3aOLD CHINESE ITERATION MARKaKHITAN SMALL SCRIPT FILLER
16FF0aVIETNAMESE ALTERNATE READING MARK CAeNHAY
18800aTANGUT COMPONENT-001c002c003c004c005c006c007c008c009c010c011c012c013c014
1880EaTANGUT COMPONENT-015c016c017c018c019c020c021c022c023c024c025c026c027c028
1881CaTANGUT COMPONENT-029c030c031c032c033c034c035c036c037c038c039c040c041c042
1882AaTANGUT COMPONENT-043c044c045c046c047c048c049c050c051c052c053c054c055c056
18838aTANGUT COMPONENT-057c058c059c060c061c062c063c064c065c066c067c068c069c070
18846aTANGUT COMPONENT-071c072c073c074c075c076c077c078c079c080c081c082c083c084
18854aTANGUT COMPONENT-085c086c087c088c089c090c091c092c093c094c095c096c097c098
18862aTANGUT COMPONENT-099c100c101c102c103c104c105c106c107c108c109c110c111c112
18870aTANGUT COMPONENT-113c114c115c116c117c118c119c120c121c122c123c124c125c126
1887EaTANGUT COMPONENT-127c128c129c130c131c132c133c134c135c136c137c138c139c140
1888CaTANGUT COMPONENT-141c142c143c144c145c146c147c148c149c150c151c152c153c154
1889AaTANGUT COMPONENT-155c156c157c158c159c160c161c162c163c164c165c166c167c168
188A8aTANGUT COMPONENT-169c170c171c172c173c174c175c176c177c178c179c180c181c182
188B6aTANGUT COMPONENT-183c184c185c186c187c188c189c190c191c192c193c194c195c196
188C4aTANGUT COMPONENT-197c198c199c200c201c202c203c204c205c206c207c208c209c210
188D2aTANGUT COMPONENT-211c212c213c214c215c216c217c218c219c220c221c222c223c224
188E0aTANGUT COMPONENT-225c226c227c228c229c230c231c232c233c234c235c236c237c238
188EEaTANGUT COMPONENT-239c240c241c242c243c244c245c246c247c248c249c250c251c252
188FCaTANGUT COMPONENT-253c254c255c256c257c258c259c260c261c262c263c264c265c266
1890AaTANGUT COMPONENT-267c268c269c270c271c272c273c274c275c276c277c278c279c280
18918aTANGUT COMPONENT-281c282c283c284c285c286c287c288c289c290c291c292c293c294
18926aTANGUT COMPONENT-295c296c297c298c299c300c301c302c303c304c305c306c307c308
18934aTANGUT COMPONENT-309c310c311c312c313c314c315c316c317c318c319c320c321c322
18942aTANGUT COMPONENT-323c324c325c326c327c328c329c330c331c332c333c334c335c336
18950aTANGUT COMPONENT-337c338c339c340c341c342c343c344c345c346c347c348c349c350
1895EaTANGUT COMPONENT-351c352c353c354c355c356c357c358c359c360c361c362c363c364
1896CaTANGUT COMPONENT-365c366c367c368c369c370c371c372c373c374c375c376c377c378
1897AaTANGUT COMPONENT-379c380c381c382c383c384c385c386c387c388c389c390c391c392
18988aTANGUT COMPONENT-393c394c395c396c397c398c399c400c401c402c403c404c405c406
18996aTANGUT COMPONENT-407c408c409c410c411c412c413c414c415c416c417c418c419c420
189A4aTANGUT COMPONENT-421c422c423c424c425c426c427c428c429c430c431c432c433c434
189B2aTANGUT COMPONENT-435c436c437c438c439c440c441c442c443c444c445c446c447c448
189C0aTANGUT COMPONENT-449c450c451c452c453c454c455c456c457c458c459c460c461c462
189CEaTANGUT COMPONENT-463c464c465c466c467c468c469c470c471c472c473c474c475c476
189DCaTANGUT COMPONENT-477c478c479c480c481c482c483c484c485c486c487c488c489c490
189EAaTANGUT COMPONENT-491c492c493c494c495c496c497c498c499c500c501c502c503c504
189F8aTANGUT COMPONENT-505c506c507c508c509c510c511c512c513c514c515c516c517c518
18A06aTANGUT COMPONENT-519c520c521c522c523c524c525c526c527c528c529c530c531c532
18A14aTANGUT COMPONENT-533c534c535c536c537c538c539c540c541c542c543c544c545c546
18A22aTANGUT COMPONENT-547c548c549c550c551c552c553c554c555c556c557c558c559c560
18A30aTANGUT COMPONENT-561c562c563c564c565c566c567c568c569c570c571c572c573c574
18A3EaTANGUT COMPONENT-575c576c577c578c579c580c581c582c583c584c585c586c587c588
18A4CaTANGUT COMPONENT-589c590c591c592c593c594c595c596c597c598c599c600c601c602
18A5AaTANGUT COMPONENT-603c604c605c606c607c608c609c610c611c612c613c614c615c616
18A68aTANGUT COMPONENT-617c618c619c620c621c622c623c624c625c626c627c628c629c630
18A76aTANGUT COMPONENT-631c632c633c634c635c636c637c638c639c640c641c642c643c644
18A84aTANGUT COMPONENT-645c646c647c648c649c650c651c652c653c654c655c656c657c658
18A92aTANGUT COMPONENT-659c660c661c662c663c664c665c666c667c668c669c670c671c672
18AA0aTANGUT COMPONENT-673c674c675c676c677c678c679c680c681c682c683c684c685c686
18AAEaTANGUT COMPONENT-687c688c689c690c691c692c693c694c695c696c697c698c699c700
18ABCaTANGUT COMPONENT-701c702c703c704c705c706c707c708c709c710c711c712c713c714
18ACAaTANGUT COMPONENT-715c716c717c718c719c720c721c722c723c724c725c726c727c728
18AD8aTANGUT COMPONENT-729c730c731c732c733c734c735c736c737c738c739c740c741c742
18AE6aTANGUT COMPONENT-743c744c745c746c747c748c749c750c751c752c753c754c755c756
18AF4aTANGUT COMPONENT-757c758c759c760c761c762c763c764c765c766c767c768
18B00aKHITAN SMALL SCRIPT CHARACTER-18B00e18B01e18B02e18B03e18B04e18B05e18B06
18B07aKHITAN SMALL SCRIPT CHARACTER-18B07e18B08e18B09e18B0Ae18B0Be18B0Ce18B0D
18B0EaKHITAN SMALL SCRIPT CHARACTER-18B0Ee18B0Fe18B10e18B11e18B12e18B13e18B14
18B15aKHITAN SMALL SCRIPT CHARACTER-18B15e18B16e18B17e18B18e18B19e18B1Ae18B1B
18B1CaKHITAN SMALL SCRIPT CHARACTER-18B1Ce18B1De18B1Ee18B1Fe18B20e18B21e18B22
18B23aKHITAN SMALL SCRIPT CHARACTER-18B23e18B24e18B25e18B26e18B27e18B28e18B29
18B2AaKHITAN SMALL SCRIPT CHARACTER-18B2Ae18B2Be18B2Ce18B2De18B2Ee18B2Fe18B30
18B31aKHITAN SMALL SCRIPT CHARACTER-18B31e18B32e18B33e18B34e18B35e18B36e18B37
18B38aKHITAN SMALL SCRIPT CHARACTER-18B38e18B39e18B3Ae18B3Be18B3Ce18B3De18B3E
18B3FaKHITAN SMALL SCRIPT CHARACTER-18B3Fe18B40e18B41e18B42e18B43e18B44e18B45
18B46aKHITAN SMALL SCRIPT CHARACTER-18B46e18B47e18B48e18B49e18B4Ae18B4Be18B4C
18B4DaKHITAN SMALL SCRIPT CHARACTER-18B4De18B4Ee18B4Fe18B50e18B51e18B52e18B53
18B54aKHITAN SMALL SCRIPT CHARACTER-18B54e18B55e18B56e18B57e18B58e18B59e18B5A
18B5BaKHITAN SMALL SCRIPT CHARACTER-18B5Be18B5Ce18B5De18B5Ee18B5Fe18B60e18B61
18B62aKHITAN SMALL SCRIPT CHARACTER-18B62e18B63e18B64e18B65e18B66e18B67e18B68
18B69aKHITAN SMALL SCRIPT CHARACTER-18B69e18B6Ae18B6Be18B6Ce18B6De18B6Ee18B6F
18B70aKHITAN SMALL SCRIPT CHARACTER-18B70e18B71e18B72e18B73e18B74e18B75e18B76
18B77aKHITAN SMALL SCRIPT CHARACTER-18B77e18B78e18B79e18B7Ae18B7Be18B7Ce18B7D
18B7EaKHITAN SMALL SCRIPT CHARACTER-18B7Ee18B7Fe18B80e18B81e18B82e18B83e18B84
18B85aKHITAN SMALL SCRIPT CHARACTER-18B85e18B86e18B87e18B88e18B89e18B8Ae18B8B
18B8CaKHITAN SMALL SCRIPT CHARACTER-18B8Ce18B8De18B8Ee18B8Fe18B90e18B91e18B92
18B93aKHITAN SMALL SCRIPT CHARACTER-18B93e18B94e18B95e18B96e18B97e18B98e18B99
18B9AaKHITAN SMALL SCRIPT CHARACTER-18B9Ae18B9Be18B9Ce18B9De18B9Ee18B9Fe18BA0
18BA1aKHITAN SMALL SCRIPT CHARACTER-18BA1e18BA2e18BA3e18BA4e18BA5e18BA6e18BA7
18BA8aKHITAN SMALL SCRIPT CHARACTER-18BA8e18BA9e18BAAe18BABe18BACe18BADe18BAE
18BAFaKHITAN SMALL SCRIPT CHARACTER-18BAFe18BB0e18BB1e18BB2e18BB3e18BB4e18BB5
18BB6aKHITAN SMALL SCRIPT CHARACTER-18BB6e18BB7e18BB8e18BB9e18BBAe18BBBe18BBC
18BBDaKHITAN SMALL SCRIPT CHARACTER-18BBDe18BBEe18BBFe18BC0e18BC1e18BC2e18BC3
18BC4aKHITAN SMALL SCRIPT CHARACTER-18BC4e18BC5e18BC6e18BC7e18BC8e18BC9e18BCA
18BCBaKHITAN SMALL SCRIPT CHARACTER-18BCBe18BCCe18BCDe18BCEe18BCFe18BD0e18BD1
18BD2aKHITAN SMALL SCRIPT CHARACTER-18BD2e18BD3e18BD4e18BD5e18BD6e18BD7e18BD8
18BD9aKHITAN SMALL SCRIPT CHARACTER-18BD9e18BDAe18BDBe18BDCe18BDDe18BDEe18BDF
18BE0aKHITAN SMALL SCRIPT CHARACTER-18BE0e18BE1e18BE2e18BE3e18BE4e18BE5e18BE6
18BE7aKHITAN SMALL SCRIPT CHARACTER-18BE7e18BE8e18BE9e18BEAe18BEBe18BECe18BED
18BEEaKHITAN SMALL SCRIPT CHARACTER-18BEEe18BEFe18BF0e18BF1e18BF2e18BF3e18BF4
18BF5aKHITAN SMALL SCRIPT CHARACTER-18BF5e18BF6e18BF7e18BF8e18BF9e18BFAe18BFB
18BFCaKHITAN SMALL SCRIPT CHARACTER-18BFCe18BFDe18BFEe18BFFe18C00e18C01e18C02
18C03aKHITAN SMALL SCRIPT CHARACTER-18C03e18C04e18C05e18C06e18C07e18C08e18C09
18C0AaKHITAN SMALL SCRIPT CHARACTER-18C0Ae18C0Be18C0Ce18C0De18C0Ee18C0Fe18C10
18C11aKHITAN SMALL SCRIPT CHARACTER-18C11e18C12e18C13e18C14e18C15e18C16e18C17
18C18aKHITAN SMALL SCRIPT CHARACTER-18C18e18C19e18C1Ae18C1Be18C1Ce18C1De18C1E
18C1FaKHITAN SMALL SCRIPT CHARACTER-18C1Fe18C20e18C21e18C22e18C23e18C24e18C25
18C26aKHITAN SMALL SCRIPT CHARACTER-18C26e18C27e18C28e18C29e18C2Ae18C2Be18C2C
18C2DaKHITAN SMALL SCRIPT CHARACTER-18C2De18C2Ee18C2Fe18C30e18C31e18C32e18C33
18C34aKHITAN SMALL SCRIPT CHARACTER-18C34e18C35e18C36e18C37e18C38e18C39e18C3A
18C3BaKHITAN SMALL SCRIPT CHARACTER-18C3Be18C3Ce18C3De18C3Ee18C3Fe18C40e18C41
18C42aKHITAN SMALL SCRIPT CHARACTER-18C42e18C43e18C44e18C45e18C46e18C47e18C48
18C49aKHITAN SMALL SCRIPT CHARACTER-18C49e18C4Ae18C4Be18C4Ce18C4De18C4Ee18C4F
18C50aKHITAN SMALL SCRIPT CHARACTER-18C50e18C51e18C52e18C53e18C54e18C55e18C56
18C57aKHITAN SMALL SCRIPT CHARACTER-18C57e18C58e18C59e18C5Ae18C5Be18C5Ce18C5D
18C5EaKHITAN SMALL SCRIPT CHARACTER-18C5Ee18C5Fe18C60e18C61e18C62e18C63e18C64
18C65aKHITAN SMALL SCRIPT CHARACTER-18C65e18C66e18C67e18C68e18C69e18C6Ae18C6B
18C6CaKHITAN SMALL SCRIPT CHARACTER-18C6Ce18C6De18C6Ee18C6Fe18C70e18C71e18C72
18C73aKHITAN SMALL SCRIPT CHARACTER-18C73e18C74e18C75e18C76e18C77e18C78e18C79
18C7AaKHITAN SMALL SCRIPT CHARACTER-18C7Ae18C7Be18C7Ce18C7De18C7Ee18C7Fe18C80
18C81aKHITAN SMALL SCRIPT CHARACTER-18C81e18C82e18C83e18C84e18C85e18C86e18C87
18C88aKHITAN SMALL SCRIPT CHARACTER-18C88e18C89e18C8Ae18C8Be18C8Ce18C8De18C8E
18C8FaKHITAN SMALL SCRIPT CHARACTER-18C8Fe18C90e18C91e18C92e18C93e18C94e18C95
18C96aKHITAN SMALL SCRIPT CHARACTER-18C96e18C97e18C98e18C99e18C9Ae18C9Be18C9C
18C9DaKHITAN SMALL SCRIPT CHARACTER-18C9De18C9Ee18C9Fe18CA0e18CA1e18CA2e18CA3
18CA4aKHITAN SMALL SCRIPT CHARACTER-18CA4e18CA5e18CA6e18CA7e18CA8e18CA9e18CAA
18CABaKHITAN SMALL SCRIPT CHARACTER-18CABe18CACe18CADe18CAEe18CAFe18CB0e18CB1
18CB2aKHITAN SMALL SCRIPT CHARACTER-18CB2e18CB3e18CB4e18CB5e18CB6e18CB7e18CB8
18CB9aKHITAN SMALL SCRIPT CHARACTER-18CB9e18CBAe18CBBe18CBCe18CBDe18CBEe18CBF
18CC0aKHITAN SMALL SCRIPT CHARACTER-18CC0e18CC1e18CC2e18CC3e18CC4e18CC5e18CC6
18CC7aKHITAN SMALL SCRIPT CHARACTER-18CC7e18CC8e18CC9e18CCAe18CCBe18CCCe18CCD
18CCEaKHITAN SMALL SCRIPT CHARACTER-18CCEe18CCFe18CD0e18CD1e18CD2e18CD3e18CD4
18CD5aKHITAN SMALL SCRIPT CHARACTER-18CD5
1AFF0aKATAKANA LETTER MINNAN TONE-2e3e4e5
1AFF5aKATAKANA LETTER MINNAN TONE-7e8dNASALIZED TONE-1f2f3f4f5
1AFFDaKATAKANA LETTER MINNAN NASALIZED TONE-7f8
1B000aKATAKANA LETTER ARCHAIC EaHIRAGANA LETTER ARCHAIC YE
1B002aHENTAIGANA LETTER A-1d2d3dWOcI-1d2d3d4cU-1d2d3d4d5cE-2d3d4d5d6cO-1d2d3
1B017aHENTAIGANA LETTER KA-1d2d3d4d5d6d7d8d9d10d11dKEcKI-1d2d3d4d5d6d7d8cKU-1
1B02CaHENTAIGANA LETTER KU-2d3d4d5d6d7cKE-1d2d3d4d5d6cKO-1d2d3dKIcSA-1d2d3d4d5
1B041aHENTAIGANA LETTER SA-6d7d8cSI-1d2d3d4d5d6cSU-1d2d3d4d5d6d7d8cSE-1d2d3d4
1B056aHENTAIGANA LETTER SE-5cSO-1d2d3d4d5d6d7cTA-1d2d3d4cTI-1d2d3d4d5d6d7cTU-1
1B06AaHENTAIGANA LETTER TU-2d3d4dTOcTE-1d2d3d4d5d6d7d8d9cTO-1d2d3d4d5d6dRA
1B07EaHENTAIGANA LETTER NA-1d2d3d4d5d6d7d8d9cNI-1d2d3d4d5d6d7dTEcNU-1d2d3cNE-1
1B093aHENTAIGANA LETTER NE-2d3d4d5d6dKOcNO-1d2d3d4d5cHA-1d2d3d4d5d6d7d8d9d10
1B0A8aHENTAIGANA LETTER HA-11cHI-1d2d3d4d5d6d7cHU-1d2d3cHE-1d2d3d4d5d6d7cHO-1
1B0BBaHENTAIGANA LETTER HO-2d3d4d5d6d7d8cMA-1d2d3d4d5d6d7cMI-1d2d3d4d5d6d7
1B0D0aHENTAIGANA LETTER MU-1d2d3d4cME-1d2dMAcMO-1d2d3d4d5d6cYA-1d2d3d4d5dYO
1B0E3aHENTAIGANA LETTER YU-1d2d3d4cYO-1d2d3d4d5d6cRA-1d2d3d4cRI-1d2d3d4d5d6d7
1B0F8aHENTAIGANA LETTER RU-1d2d3d4d5d6cRE-1d2d3d4cRO-1d2d3d4d5d6cWA-1d2d3d4d5
1B10DaHENTAIGANA LETTER WI-1d2d3d4d5cWE-1d2d3d4cWO-1d2d3d4d5d6d7cN-MU-MO-1f2
1B11FaHIRAGANA LETTER ARCHAIC WUaKATAKANA LETTER ARCHAIC YIdYEdWU
1B150aHIRAGANA LETTER SMALL WIdWEdWO
1B164aKATAKANA LETTER SMALL WIdWEdWOdN
1B170aNUSHU CHARACTER-1B170c1B171c1B172c1B173c1B174c1B175c1B176c1B177c1B178
1B179aNUSHU CHARACTER-1B179c1B17Ac1B17Bc1B17Cc1B17Dc1B17Ec1B17Fc1B180c1B181
1B182aNUSHU CHARACTER-1B182c1B183c1B184c1B185c1B186c1B187c1B188c1B189c1B18A
1B18BaNUSHU CHARACTER-1B18Bc1B18Cc1B18Dc1B18Ec1B18Fc1B190c1B191c1B192c1B193
1B194aNUSHU CHARACTER-1B194c1B195c1B196c1B197c1B198c1B199c1B19Ac1B19Bc1B19C
1B19DaNUSHU CHARACTER-1B19Dc1B19Ec1B19Fc1B1A0c1B1A1c1B1A2c1B1A3c1B1A4c1B1A5
1B1A6aNUSHU CHARACTER-1B1A6c1B1A7c1B1A8c1B1A9c1B1AAc1B1ABc1B1ACc1B1ADc1B1AE
1B1AFaNUSHU CHARACTER-1B1AFc1B1B0c1B1B1c1B1B2c1B1B3c1B1B4c1B1B5c1B1B6c1B1B7
1B1B8aNUSHU CHARACTER-1B1B8c1B1B9c1B1BAc1B1BBc1B1BCc1B1BDc1B1BEc1B1BFc1B1C0
1B1C1aNUSHU CHARACTER-1B1C1c1B1C2c1B1C3c1B1C4c1B1C5c1B1C6c1B1C7c1B1C8c1B1C9
1B1CAaNUSHU CHARACTER-1B1CAc1B1CBc1B1CCc1B1CDc1B1CEc1B1CFc1B1D0c1B1D1c1B1D2
1B1D3aNUSHU CHARACTER-1B1D3c1B1D4c1B1D5c1B1D6c1B1D7c1B1D8c1B1D9c1B1DAc1B1DB
1B1DCaNUSHU CHARACTER-1B1DCc1B1DDc1B1DEc1B1DFc1B1E0c1B1E1c1B1E2c1B1E3c1B1E4
1B1E5aNUSHU CHARACTER-1B1E5c1B1E6c1B1E7c1B1E8c1B1E9c1B1EAc1B1EBc1B1ECc1B1ED
1B1EEaNUSHU CHARACTER-1B1EEc1B1EFc1B1F0c1B1F1c1B1F2c1B1F3c1B1F4c1B1F5c1B1F6
1B1F7aNUSHU CHARACTER-1B1F7c1B1F8c1B1F9c1B1FAc1B1FBc1B1FCc1B1FDc1B1FEc1B1FF
1B200aNUSHU CHARACTER-1B200c1B201c1B202c1B203c1B204c1B205c1B206c1B207c1B208
1B209aNUSHU CHARACTER-1B209c1B20Ac1B20Bc1B20Cc1B20Dc1B20Ec1B20Fc1B210c1B211
1B212aNUSHU CHARACTER-1B212c1B213c1B214c1B215c1B216c1B217c1B218c1B219c1B21A
1B21BaNUSHU CHARACTER-1B21Bc1B21Cc1B21Dc1B21Ec1B21Fc1B220c1B221c1B222c1B223
1B224aNUSHU CHARACTER-1B224c1B225c1B226c1B227c1B228c1B229c1B22Ac1B22Bc1B22C
1B22DaNUSHU CHARACTER-1B22Dc1B22Ec1B22Fc1B230c1B231c1B232c1B233c1B234c1B235
1B236aNUSHU CHARACTER-1B236c1B237c1B238c1B239c1B23Ac1B23Bc1B23Cc1B23Dc1B23E
1B23FaNUSHU CHARACTER-1B23Fc1B240c1B241c1B242c1B243c1B244c1B245c1B246c1B247
1B248aNUSHU CHARACTER-1B248c1B249c1B24Ac1B24Bc1B24Cc1B24Dc1B24Ec1B24Fc1B250
1B251aNUSHU CHARACTER-1B251c1B252c1B253c1B254c1B255c1B256c1B257c1B258c1B259
1B25AaNUSHU CHARACTER-1B25Ac1B25Bc1B25Cc1B25Dc1B25Ec1B25Fc1B260c1B261c1B262
1B263aNUSHU CHARACTER-1B263c1B264c1B265c1B266c1B267c1B268c1B269c1B26Ac1B26B
1B26CaNUSHU CHARACTER-1B26Cc1B26Dc1B26Ec1B26Fc1B270c1B271c1B272c1B273c1B274
1B275aNUSHU CHARACTER-1B275c1B276c1B277c1B278c1B279c1B27Ac1B27Bc1B27Cc1B27D
1B27EaNUSHU CHARACTER-1B27Ec1B27Fc1B280c1B281c1B282c1B283c1B284c1B285c1B286
1B287aNUSHU CHARACTER-1B287c1B288c1B289c1B28Ac1B28Bc1B28Cc1B28Dc1B28Ec1B28F
1B290aNUSHU CHARACTER-1B290c1B291c1B292c1B293c1B294c1B295c1B296c1B297c1B298
1B299aNUSHU CHARACTER-1B299c1B29Ac1B29Bc1B29Cc1B29Dc1B29Ec1B29Fc1B2A0c1B2A1
1B2A2aNUSHU CHARACTER-1B2A2c1B2A3c1B2A4c1B2A5c1B2A6c1B2A7c1B2A8c1B2A9c1B2AA
1B2ABaNUSHU CHARACTER-1B2ABc1B2ACc1B2ADc1B2AEc1B2AFc1B2B0c1B2B1c1B2B2c1B2B3
1B2B4aNUSHU CHARACTER-1B2B4c1B2B5c1B2B6c1B2B7c1B2B8c1B2B9c1B2BAc1B2BBc1B2BC
1B2BDaNUSHU CHARACTER-1B2BDc1B2BEc1B2BFc1B2C0c1B2C1c1B2C2c1B2C3c1B2C4c1B2C5
1B2C6aNUSHU CHARACTER-1B2C6c1B2C7c1B2C8c1B2C9c1B2CAc1B2CBc1B2CCc1B2CDc1B2CE
1B2CFaNUSHU CHARACTER-1B2CFc1B2D0c1B2D1c1B2D2c1B2D3c1B2D4c1B2D5c1B2D6c1B2D7
1B2D8aNUSHU CHARACTER-1B2D8c1B2D9c1B2DAc1B2DBc1B2DCc1B2DDc1B2DEc1B2DFc1B2E0
1B2E1aNUSHU CHARACTER-1B2E1c1B2E2c1B2E3c1B2E4c1B2E5c1B2E6c1B2E7c1B2E8c1B2E9
1B2EAaNUSHU CHARACTER-1B2EAc1B2EBc1B2ECc1B2EDc1B2EEc1B2EFc1B2F0c1B2F1c1B2F2
1B2F3aNUSHU CHARACTER-1B2F3c1B2F4c1B2F5c1B2F6c1B2F7c1B2F8c1B2F9c1B2FAc1B2FB
1BC00aDUPLOYAN LETTER HcXcPcTcFcKcLcBcDcVcGcRcP NcD ScF NcK McR ScTHcSLOAN DH
1BC13aDUPLOYAN LETTER DHcKKcSLOAN JcHLcLHcRHcMcNcJcScM NcN McJ McS J
1BC21aDUPLOYAN LETTER M WITH DOTcN WITH DOTcJ WITH DOTfS INSIDE AND ABOVE
1BC25aDUPLOYAN LETTER S WITH DOTf BELOWcM ScN ScJ ScS ScM N ScN M ScJ M S
1BC2EaDUPLOYAN LETTER S J ScJ S WITH DOTdNe ScS Te RdPe RcT SdR ScWdHcW RcS N
1BC3CaDUPLOYAN LETTER S McK R ScG R ScS Ke RcAcSLOAN OWcOAcOcAOUcIcEcIE
1BC49aDUPLOYAN LETTER SHORT IcUIcEEcSLOAN EHcROMANIAN IcSLOAN EEcLONG IcYEcU
1BC52aDUPLOYAN LETTER EUcXWcU NcLONG UcROMANIAN UcUHcSLOAN UcOOHcOWcOUcWAcWO
1BC5EaDUPLOYAN LETTER WIcWEIcWOWcNASAL UdOdIdAcPERNIN ANdAMcSLOAN ENdANdON
1BC6AaDUPLOYAN LETTER VOCALIC M
1BC70aDUPLOYAN AFFIX LEFT HORIZONTAL SECANTcMID HORIZONTAL SECANT
1BC72aDUPLOYAN AFFIX RIGHT HORIZONTAL SECANTcLOW VERTICAL SECANT
1BC74aDUPLOYAN AFFIX MID VERTICAL SECANTcHIGH VERTICAL SECANTcATTACHED SECANT
1BC77aDUPLOYAN AFFIX ATTACHED LEFT-TO-RIGHT SECANTdTANGENTdTAILdE HOOKdI HOOK
1BC7CaDUPLOYAN AFFIX ATTACHED TANGENT HOOK
1BC80aDUPLOYAN AFFIX HIGH ACUTEdTIGHT ACUTEdGRAVEdLONG GRAVEdDOTdCIRCLEdLINE
1BC87aDUPLOYAN AFFIX HIGH WAVEdVERTICAL
1BC90aDUPLOYAN AFFIX LOW ACUTEdTIGHT ACUTEdGRAVEdLONG GRAVEdDOTdCIRCLEdLINE
1BC97aDUPLOYAN AFFIX LOW WAVEdVERTICALdARROW
1BC9CaDUPLOYAN SIGN O WITH CROSSbTHICK LETTER SELECTORbDOUBLE MARK
1BC9FaDUPLOYAN PUNCTUATION CHINOOK FULL STOPaSHORTHAND FORMAT LETTER OVERLAP
1BCA1aSHORTHAND FORMAT CONTINUING OVERLAPcDOWN STEPcUP STEP
1CF00aZNAMENNY COMBINING MARK GORAZDO NIZKO S KRYZHEM ON LEFT
1CF01aZNAMENNY COMBINING MARK NIZKO S KRYZHEM ON LEFTdTSATA ON LEFT
1CF03aZNAMENNY COMBINING MARK GORAZDO NIZKO ON LEFTdNIZKO ON LEFT
1CF05aZNAMENNY COMBINING MARK SREDNE ON LEFTdMALO POVYSHE ON LEFT
1CF07aZNAMENNY COMBINING MARK POVYSHE ON LEFTdVYSOKO ON LEFT
1CF09aZNAMENNY COMBINING MARK MALO POVYSHE S KHOKHLOM ON LEFT
1CF0AaZNAMENNY COMBINING MARK POVYSHE S KHOKHLOM ON LEFT
1CF0BaZNAMENNY COMBINING MARK VYSOKO S KHOKHLOM ON LEFT
1CF0CaZNAMENNY COMBINING MARK GORAZDO NIZKO S KRYZHEM ON RIGHT
1CF0DaZNAMENNY COMBINING MARK NIZKO S KRYZHEM ON RIGHTdTSATA ON RIGHT
1CF0FaZNAMENNY COMBINING MARK GORAZDO NIZKO ON RIGHTdNIZKO ON RIGHT
1CF11aZNAMENNY COMBINING MARK SREDNE ON RIGHTdMALO POVYSHE ON RIGHT
1CF13aZNAMENNY COMBINING MARK POVYSHE ON RIGHTdVYSOKO ON RIGHT
1CF15aZNAMENNY COMBINING MARK MALO POVYSHE S KHOKHLOM ON RIGHT
1CF16aZNAMENNY COMBINING MARK POVYSHE S KHOKHLOM ON RIGHT
1CF17aZNAMENNY COMBINING MARK VYSOKO S KHOKHLOM ON RIGHTdTSATA S KRYZHEM
1CF19aZNAMENNY COMBINING MARK MALO POVYSHE S KRYZHEMdSTRANNO MALO POVYSHE
1CF1BaZNAMENNY COMBINING MARK POVYSHE S KRYZHEMeSTRANNOdVYSOKO S KRYZHEM
1CF1EaZNAMENNY COMBINING MARK MALO POVYSHE STRANNOdGORAZDO VYSOKOdZELOdON
1CF22aZNAMENNY COMBINING MARK RAVNOdTIKHAYAdBORZAYAdUDARKAdPODVERTKAdLOMKA
1CF28aZNAMENNY COMBINING MARK KUPNAYAdKACHKAdZEVOKdSKOBAdRAZSEKAdKRYZH ON LEFT
1CF30aZNAMENNY COMBINING TONAL RANGE MARK MRACHNOfSVETLOfTRESVETLO
1CF33aZNAMENNY COMBINING MARK ZADERZHKAdDEMESTVENNY ZADERZHKAdOTSECHKA
1CF36aZNAMENNY COMBINING MARK PODCHASHIEe WITH VERTICAL STROKEdCHASHKA
1CF39aZNAMENNY COMBINING MARK CHASHKA POLNAYAdOBLACHKOdSOROCHYA NOZHKAdTOCHKA
1CF3DaZNAMENNY COMBINING MARK DVOETOCHIEcATTACHING VERTICAL OMET
1CF3FaZNAMENNY COMBINING MARK CURVED OMETdKRYZHcLOWER TONAL RANGE INDICATOR
1CF42aZNAMENNY PRIZNAK MODIFIER LEVEL-2e3dDIRECTION FLIPdKRYZHdROG
1CF50aZNAMENNY NEUME KRYUKd TIKHYcPARAKLITcDVA V CHELNUcKLYUCHcZANOZHEK
1CF56aZNAMENNY NEUME STOPITSAd S OCHKOMcPEREVODKAd NEPOSTOYANNAYA
1CF5AaZNAMENNY NEUME STOPITSA WITH SOROCHYA NOZHKAcCHELYUSTKAcPALKAcZAPYATAYA
1CF5EaZNAMENNY NEUME GOLUBCHIK BORZYdTIKHYdMRACHNYdSVETLYdTRESVETLY
1CF63aZNAMENNY NEUME VRAKHIYA PROSTAYAdMRACHNAYAdSVETLAYAdTRESVETLAYA
1CF67aZNAMENNY NEUME VRAKHIYA KLYUCHEVAYA PROSTAYAeMRACHNAYAeSVETLAYA
1CF6AaZNAMENNY NEUME VRAKHIYA KLYUCHEVAYA TRESVETLAYAcDOUBLE ZAPYATAYA
1CF6CaZNAMENNY NEUME REVERSED CHELYUSTKAcDERBITSAcKHAMILOcCHASHKAcPODCHASHIE
1CF71aZNAMENNY NEUME SKAMEYTSA MRACHNAYAdSVETLAYAdTRESVETLAYAdTIKHAYA
1CF75aZNAMENNY NEUME DEMESTVENNY KLYUCHcSKAMEYTSA KLYUCHEVAYA SVETLAYA
1CF77aZNAMENNY NEUME SKAMEYTSA KLYUCHENEPOSTOYANNAYAdKLYUCHEVAYA TIKHAYA
1CF79aZNAMENNY NEUME SKAMEYTSA DVOECHELNAYA PROSTAYAeSVETLAYAeNEPOSTOYANNAYA
1CF7CaZNAMENNY NEUME SKAMEYTSA DVOECHELNAYA KLYUCHEVAYAcSLOZHITIEd S ZAPYATOY
1CF7FaZNAMENNY NEUME SLOZHITIE ZAKRYTOEdS KRYZHEMcKRYZHcROGcFITAcKOBYLA
1CF85aZNAMENNY NEUME ZMEYTSAcSTATYAd S ZAPYATOYeKRYZHEMeZAPYATOY I KRYZHEM
1CF8AaZNAMENNY NEUME STATYA S KRYZHEM I ZAPYATOYdZAKRYTAYAe S ZAPYATOYdS ROGOM
1CF8EaZNAMENNY NEUME STATYA S DVUMYA ZAPYATYMIeZAPYATOY I PODCHASHIEM
1CF90aZNAMENNY NEUME POLKULIZMYcSTATYA NEPOSTOYANNAYAcSTRELA PROSTAYA
1CF93aZNAMENNY NEUME STRELA MRACHNOTIKHAYAdKRYZHEVAYAdPOLUPOVODNAYAdPOVODNAYA
1CF97aZNAMENNY NEUME STRELA NEPOSTOYANNAYAdKLYUCHEPOVODNAYA
1CF99aZNAMENNY NEUME STRELA KLYUCHENEPOSTOYANNAYAdTIKHAYA PUTNAYAdDVOECHELNAYA
1CF9CaZNAMENNY NEUME STRELA DVOECHELNOKRYZHEVAYAdDVOECHELNOPOVODNAYA
1CF9EaZNAMENNY NEUME STRELA DVOECHELNAYA KLYUCHEVAYA
1CF9FaZNAMENNY NEUME STRELA DVOECHELNOPOVODNAYA KLYUCHEVAYA
1CFA0aZNAMENNY NEUME STRELA GROMNAYA WITH SINGLE ZAPYATAYA
1CFA1aZNAMENNY NEUME STRELA GROMOPOVODNAYA WITH SINGLE ZAPYATAYAdGROMNAYA
1CFA3aZNAMENNY NEUME STRELA GROMOPOVODNAYAe WITH DOUBLE ZAPYATAYA
1CFA5aZNAMENNY NEUME STRELA GROMOKRYZHEVAYAe POVODNAYAcMECHIKd POVODNY
1CFA9aZNAMENNY NEUME MECHIK KLYUCHEVOYdKLYUCHEPOVODNYdKLYUCHENEPOSTOYANNY
1CFACaZNAMENNY NEUME STRELA TRYASOGLASNAYAdTRYASOPOVODNAYAdTRYASOSTRELNAYA
1CFAFaZNAMENNY NEUME OSOKAd SVETLAYAdTRESVETLAYAdKRYUKOVAYA SVETLAYA
1CFB3aZNAMENNY NEUME OSOKA KLYUCHEVAYA SVETLAYAeNEPOSTOYANNAYA
1CFB5aZNAMENNY NEUME STRELA KRYUKOVAYAe POVODNAYA
1CFB7aZNAMENNY NEUME STRELA KRYUKOVAYA GROMNAYA WITH SINGLE ZAPYATAYA
1CFB8aZNAMENNY NEUME STRELA KRYUKOVAYA GROMOPOVODNAYA WITH SINGLE ZAPYATAYA
1CFB9aZNAMENNY NEUME STRELA KRYUKOVAYA GROMNAYAeGROMOPOVODNAYA
1CFBBaZNAMENNY NEUME STRELA KRYUKOVAYA GROMOPOVODNAYA WITH DOUBLE ZAPYATAYA
1CFBCaZNAMENNY NEUME STRELA KRYUKOVAYA GROMOKRYZHEVAYAf POVODNAYAeTRYASKA
1CFBFaZNAMENNY NEUME KUFISMAcOBLAKOcDUDAcNEMKAcPAUK
1D000aBYZANTINE MUSICAL SYMBOL PSILIdDASEIAdPERISPOMENIdOXEIA EKFONITIKON
1D004aBYZANTINE MUSICAL SYMBOL OXEIA DIPLIdVAREIA EKFONITIKONeDIPLIdKATHISTI
1D008aBYZANTINE MUSICAL SYMBOL SYRMATIKIdPARAKLITIKIdYPOKRISISe DIPLIdKREMASTI
1D00DaBYZANTINE MUSICAL SYMBOL APESO EKFONITIKONdEXO EKFONITIKONdTELEIA
1D010aBYZANTINE MUSICAL SYMBOL KENTIMATAdAPOSTROFOSe DIPLIdSYNEVMAdTHITA
1D015aBYZANTINE MUSICAL SYMBOL OLIGON ARCHAIONdGORGON ARCHAIONdPSILONdCHAMILON
1D019aBYZANTINE MUSICAL SYMBOL VATHYdISON ARCHAIONdKENTIMA ARCHAION
1D01CaBYZANTINE MUSICAL SYMBOL KENTIMATA ARCHAIONdSAXIMATAdPARICHON
1D01FaBYZANTINE MUSICAL SYMBOL STAVROS APODEXIAdOXEIAI ARCHAION
1D021aBYZANTINE MUSICAL SYMBOL VAREIAI ARCHAIONdAPODERMA ARCHAIONdAPOTHEMA
1D024aBYZANTINE MUSICAL SYMBOL KLASMAdREVMAdPIASMA ARCHAIONdTINAGMA
1D028aBYZANTINE MUSICAL SYMBOL ANATRICHISMAdSEISMAdSYNAGMA ARCHAION
1D02BaBYZANTINE MUSICAL SYMBOL SYNAGMA META STAVROUdOYRANISMA ARCHAIONdTHEMA
1D02EaBYZANTINE MUSICAL SYMBOL LEMOIdDYOdTRIAdTESSERAdKRATIMATAdAPESO EXO NEO
1D034aBYZANTINE MUSICAL SYMBOL FTHORA ARCHAIONdIMIFTHORAdTROMIKON ARCHAION
1D037aBYZANTINE MUSICAL SYMBOL KATAVA TROMIKONdPELASTONdPSIFISTONdKONTEVMA
1D03BaBYZANTINE MUSICAL SYMBOL CHOREVMA ARCHAIONdRAPISMAdPARAKALESMA ARCHAION
1D03EaBYZANTINE MUSICAL SYMBOL PARAKLITIKI ARCHAIONdICHADINdNANAdPETASMA
1D042aBYZANTINE MUSICAL SYMBOL KONTEVMA ALLOdTROMIKON ALLOdSTRAGGISMATA
1D045aBYZANTINE MUSICAL SYMBOL GRONTHISMATAdISON NEOdOLIGON NEOdOXEIA NEO
1D049aBYZANTINE MUSICAL SYMBOL PETASTIdKOUFISMAdPETASTOKOUFISMA
1D04CaBYZANTINE MUSICAL SYMBOL KRATIMOKOUFISMAdPELASTON NEOdKENTIMATA NEO ANO
1D04FaBYZANTINE MUSICAL SYMBOL KENTIMA NEO ANOdYPSILIdAPOSTROFOS NEO
1D052aBYZANTINE MUSICAL SYMBOL APOSTROFOI SYNDESMOS NEOdYPORROI
1D054aBYZANTINE MUSICAL SYMBOL KRATIMOYPORROONdELAFRONdCHAMILIdMIKRON ISON
1D058aBYZANTINE MUSICAL SYMBOL VAREIA NEOdPIASMA NEOdPSIFISTON NEOdOMALON
1D05CaBYZANTINE MUSICAL SYMBOL ANTIKENOMAdLYGISMAdPARAKLITIKI NEO
1D05FaBYZANTINE MUSICAL SYMBOL PARAKALESMA NEOdETERON PARAKALESMAdKYLISMA
1D062aBYZANTINE MUSICAL SYMBOL ANTIKENOKYLISMAdTROMIKON NEOdEKSTREPTON
1D065aBYZANTINE MUSICAL SYMBOL SYNAGMA NEOdSYRMAdCHOREVMA NEOdEPEGERMA
1D069aBYZANTINE MUSICAL SYMBOL SEISMA NEOdXIRON KLASMAdTROMIKOPSIFISTON
1D06CaBYZANTINE MUSICAL SYMBOL PSIFISTOLYGISMAdTROMIKOLYGISMA
1D06EaBYZANTINE MUSICAL SYMBOL TROMIKOPARAKALESMAdPSIFISTOPARAKALESMA
1D070aBYZANTINE MUSICAL SYMBOL TROMIKOSYNAGMAdPSIFISTOSYNAGMAdGORGOSYNTHETON
1D073aBYZANTINE MUSICAL SYMBOL ARGOSYNTHETONdETERON ARGOSYNTHETON
1D075aBYZANTINE MUSICAL SYMBOL OYRANISMA NEOdTHEMATISMOS ESOeEXOdTHEMA APLOUN
1D079aBYZANTINE MUSICAL SYMBOL THES KAI APOTHESdKATAVASMAdENDOFONONdYFEN KATO
1D07DaBYZANTINE MUSICAL SYMBOL YFEN ANOdSTAVROSdKLASMA ANOdDIPLI ARCHAION
1D081aBYZANTINE MUSICAL SYMBOL KRATIMA ARCHAIONeALLOeNEOdAPODERMA NEOdAPLI
1D086aBYZANTINE MUSICAL SYMBOL DIPLIdTRIPLIdTETRAPLIdKORONIS
1D08AaBYZANTINE MUSICAL SYMBOL LEIMMA ENOS CHRONOUeDYO CHRONONeTRION CHRONON
1D08DaBYZANTINE MUSICAL SYMBOL LEIMMA TESSARON CHRONONeIMISEOS CHRONOU
1D08FaBYZANTINE MUSICAL SYMBOL GORGON NEO ANOePARESTIGMENON ARISTERAfDEXIA
1D092aBYZANTINE MUSICAL SYMBOL DIGORGONe PARESTIGMENON ARISTERA KATOgANOfDEXIA
1D096aBYZANTINE MUSICAL SYMBOL TRIGORGONdARGONdIMIDIARGONdDIARGON
1D09AaBYZANTINE MUSICAL SYMBOL AGOGI POLI ARGIeARGOTERIeARGIeMETRIAeMESIeGORGI
1D0A0aBYZANTINE MUSICAL SYMBOL AGOGI GORGOTERIePOLI GORGI
1D0A2aBYZANTINE MUSICAL SYMBOL MARTYRIA PROTOS ICHOSeALLI PROTOS ICHOS
1D0A4aBYZANTINE MUSICAL SYMBOL MARTYRIA DEYTEROS ICHOSeALLI DEYTEROS ICHOS
1D0A6aBYZANTINE MUSICAL SYMBOL MARTYRIA TRITOS ICHOSeTRIFONIASeTETARTOS ICHOS
1D0A9aBYZANTINE MUSICAL SYMBOL MARTYRIA TETARTOS LEGETOS ICHOSeLEGETOS ICHOS
1D0ABaBYZANTINE MUSICAL SYMBOL MARTYRIA PLAGIOS ICHOSdISAKIA TELOUS ICHIMATOS
1D0ADaBYZANTINE MUSICAL SYMBOL APOSTROFOI TELOUS ICHIMATOS
1D0AEaBYZANTINE MUSICAL SYMBOL FANEROSIS TETRAFONIASeMONOFONIASeDIFONIAS
1D0B1aBYZANTINE MUSICAL SYMBOL MARTYRIA VARYS ICHOSePROTOVARYS ICHOS
1D0B3aBYZANTINE MUSICAL SYMBOL MARTYRIA PLAGIOS TETARTOS ICHOS
1D0B4aBYZANTINE MUSICAL SYMBOL GORTHMIKON N APLOUNfDIPLOUN
1D0B6aBYZANTINE MUSICAL SYMBOL ENARXIS KAI FTHORA VOUdIMIFONONdIMIFTHORON
1D0B9aBYZANTINE MUSICAL SYMBOL FTHORA ARCHAION DEYTEROU ICHOUeDIATONIKI PA
1D0BBaBYZANTINE MUSICAL SYMBOL FTHORA DIATONIKI NANAeNAOS ICHOSeDIATONIKI DI
1D0BEaBYZANTINE MUSICAL SYMBOL FTHORA SKLIRON DIATONON DIeDIATONIKI KEfZO
1D0C1aBYZANTINE MUSICAL SYMBOL FTHORA DIATONIKI NI KATOgANO
1D0C3aBYZANTINE MUSICAL SYMBOL FTHORA MALAKON CHROMA DIFONIASgMONOFONIAS
1D0C5aBYZANTINE MUSICAL SYMBOL FHTORA SKLIRON CHROMA VASIS
1D0C6aBYZANTINE MUSICAL SYMBOL FTHORA SKLIRON CHROMA SYNAFIeNENANOdCHROA ZYGOS
1D0C9aBYZANTINE MUSICAL SYMBOL CHROA KLITONeSPATHI
1D0CBaBYZANTINE MUSICAL SYMBOL FTHORA I YFESIS TETARTIMORION
1D0CCaBYZANTINE MUSICAL SYMBOL FTHORA ENARMONIOS ANTIFONIAdYFESIS TRITIMORION
1D0CEaBYZANTINE MUSICAL SYMBOL DIESIS TRITIMORIONeTETARTIMORION
1D0D0aBYZANTINE MUSICAL SYMBOL DIESIS APLI DYO DODEKATA
1D0D1aBYZANTINE MUSICAL SYMBOL DIESIS MONOGRAMMOS TESSERA DODEKATA
1D0D2aBYZANTINE MUSICAL SYMBOL DIESIS DIGRAMMOS EX DODEKATA
1D0D3aBYZANTINE MUSICAL SYMBOL DIESIS TRIGRAMMOS OKTO DODEKATA
1D0D4aBYZANTINE MUSICAL SYMBOL YFESIS APLI DYO DODEKATA
1D0D5aBYZANTINE MUSICAL SYMBOL YFESIS MONOGRAMMOS TESSERA DODEKATA
1D0D6aBYZANTINE MUSICAL SYMBOL YFESIS DIGRAMMOS EX DODEKATA
1D0D7aBYZANTINE MUSICAL SYMBOL YFESIS TRIGRAMMOS OKTO DODEKATAdGENIKI DIESIS
1D0D9aBYZANTINE MUSICAL SYMBOL GENIKI YFESISdDIASTOLI APLI MIKRIfMEGALIeDIPLI
1D0DDaBYZANTINE MUSICAL SYMBOL DIASTOLI THESEOSdSIMANSIS THESEOSf DISIMOU
1D0E0aBYZANTINE MUSICAL SYMBOL SIMANSIS THESEOS TRISIMOUfTETRASIMOUeARSEOS
1D0E3aBYZANTINE MUSICAL SYMBOL SIMANSIS ARSEOS DISIMOUfTRISIMOUfTETRASIMOU
1D0E6aBYZANTINE MUSICAL SYMBOL DIGRAMMA GGdDIFTOGGOS OUdSTIGMAdARKTIKO PAeVOU
1D0EBaBYZANTINE MUSICAL SYMBOL ARKTIKO GAeDIeKEeZOeNIdKENTIMATA NEO MESO
1D0F1aBYZANTINE MUSICAL SYMBOL KENTIMA NEO MESOdKENTIMATA NEO KATO
1D0F3aBYZANTINE MUSICAL SYMBOL KENTIMA NEO KATOdKLASMA KATOdGORGON NEO KATO
1D100aMUSICAL SYMBOL SINGLE BARLINEcDOUBLE BARLINEcFINAL BARLINE
1D103aMUSICAL SYMBOL REVERSE FINAL BARLINEcDASHED BARLINEcSHORT BARLINE
1D106aMUSICAL SYMBOL LEFT REPEAT SIGNcRIGHT REPEAT SIGNcREPEAT DOTScDAL SEGNO
1D10AaMUSICAL SYMBOL DA CAPOcSEGNOcCODAcREPEATED FIGURE-1e2e3cFERMATAd BELOW
1D112aMUSICAL SYMBOL BREATH MARKcCAESURAcBRACEcBRACKETcONE-LINE STAFF
1D117aMUSICAL SYMBOL TWO-LINE STAFFcTHREE-LINE STAFFcFOUR-LINE STAFF
1D11AaMUSICAL SYMBOL FIVE-LINE STAFFcSIX-LINE STAFFdSTRING FRETBOARD
1D11DaMUSICAL SYMBOL FOUR-STRING FRETBOARDcG CLEFe OTTAVA ALTAfBASSAcC CLEF
1D122aMUSICAL SYMBOL F CLEFe OTTAVA ALTAfBASSAcDRUM CLEF-1e2
1D129aMUSICAL SYMBOL MULTIPLE MEASURE RESTcDOUBLE SHARPdFLATcFLAT UPdDOWN
1D12EaMUSICAL SYMBOL NATURAL UPdDOWNcSHARP UPdDOWNcQUARTER TONE SHARPeFLAT
1D134aMUSICAL SYMBOL COMMON TIMEcCUT TIMEcOTTAVA ALTAdBASSAcQUINDICESIMA ALTA
1D139aMUSICAL SYMBOL QUINDICESIMA BASSAcMULTI RESTcWHOLE RESTcHALF REST
1D13DaMUSICAL SYMBOL QUARTER RESTcEIGHTH RESTcSIXTEENTH REST
1D140aMUSICAL SYMBOL THIRTY-SECOND RESTcSIXTY-FOURTH REST
1D142aMUSICAL SYMBOL ONE HUNDRED TWENTY-EIGHTH RESTcX NOTEHEADcPLUS NOTEHEAD
1D145aMUSICAL SYMBOL CIRCLE X NOTEHEADcSQUARE NOTEHEAD WHITEeBLACK
1D148aMUSICAL SYMBOL TRIANGLE NOTEHEAD UP WHITEfBLACKeLEFT WHITEfBLACK
1D14CaMUSICAL SYMBOL TRIANGLE NOTEHEAD RIGHT WHITEfBLACKeDOWN WHITEfBLACK
1D150aMUSICAL SYMBOL TRIANGLE NOTEHEAD UP RIGHT WHITEgBLACK
1D152aMUSICAL SYMBOL MOON NOTEHEAD WHITEeBLACK
1D154aMUSICAL SYMBOL TRIANGLE-ROUND NOTEHEAD DOWN WHITEgBLACK
1D156aMUSICAL SYMBOL PARENTHESIS NOTEHEADcVOID NOTEHEADcNOTEHEAD BLACK
1D159aMUSICAL SYMBOL NULL NOTEHEADcCLUSTER NOTEHEAD WHITEeBLACKcBREVE
1D15DaMUSICAL SYMBOL WHOLE NOTEcHALF NOTEcQUARTER NOTEcEIGHTH NOTE
1D161aMUSICAL SYMBOL SIXTEENTH NOTEcTHIRTY-SECOND NOTEcSIXTY-FOURTH NOTE
1D164aMUSICAL SYMBOL ONE HUNDRED TWENTY-EIGHTH NOTEcCOMBINING STEM
1D166aMUSICAL SYMBOL COMBINING SPRECHGESANG STEMdTREMOLO-1e2e3
1D16AaMUSICAL SYMBOL FINGERED TREMOLO-1e2e3cCOMBINING AUGMENTATION DOTdFLAG-1
1D16FaMUSICAL SYMBOL COMBINING FLAG-2e3e4e5cBEGIN BEAMcEND BEAMcBEGIN TIE
1D176aMUSICAL SYMBOL END TIEcBEGIN SLURcEND SLURcBEGIN PHRASEcEND PHRASE
1D17BaMUSICAL SYMBOL COMBINING ACCENTdSTACCATOdTENUTOdSTACCATISSIMOdMARCATO
1D180aMUSICAL SYMBOL COMBINING MARCATO-STACCATOdACCENT-STACCATOdLOURE
1D183aMUSICAL SYMBOL ARPEGGIATO UPdDOWNcCOMBINING DOITdRIPdFLIPdSMEARdBEND
1D18AaMUSICAL SYMBOL COMBINING DOUBLE TONGUEdTRIPLE TONGUEcRINFORZANDOcSUBITO
1D18EaMUSICAL SYMBOL ZcPIANOcMEZZOcFORTEcCRESCENDOcDECRESCENDO
1D194aMUSICAL SYMBOL GRACE NOTE SLASHeNO SLASHcTRcTURNcINVERTED TURN
1D199aMUSICAL SYMBOL TURN SLASHdUPcORNAMENT STROKE-1e2e3e4e5e6e7e8e9e10e11
1D1A6aMUSICAL SYMBOL HAUPTSTIMMEcNEBENSTIMMEcEND OF STIMMEcDEGREE SLASH
1D1AAaMUSICAL SYMBOL COMBINING DOWN BOWdUP BOWdHARMONICdSNAP PIZZICATO
1D1AEaMUSICAL SYMBOL PEDAL MARKdUP MARKcHALF PEDAL MARKcGLISSANDO UPdDOWN
1D1B3aMUSICAL SYMBOL WITH FINGERNAILScDAMPd ALLcMAXIMAcLONGAcBREVIS
1D1B9aMUSICAL SYMBOL SEMIBREVIS WHITEdBLACKcMINIMAd BLACKcSEMIMINIMA WHITE
1D1BEaMUSICAL SYMBOL SEMIMINIMA BLACKcFUSA WHITEdBLACKcLONGA PERFECTA REST
1D1C2aMUSICAL SYMBOL LONGA IMPERFECTA RESTcBREVIS RESTcSEMIBREVIS REST
1D1C5aMUSICAL SYMBOL MINIMA RESTcSEMIMINIMA REST
1D1C7aMUSICAL SYMBOL TEMPUS PERFECTUM CUM PROLATIONE PERFECTAgIMPERFECTA
1D1C9aMUSICAL SYMBOL TEMPUS PERFECTUM CUM PROLATIONE PERFECTA DIMINUTION-1
1D1CAaMUSICAL SYMBOL TEMPUS IMPERFECTUM CUM PROLATIONE PERFECTAgIMPERFECTA
1D1CCaMUSICAL SYMBOL TEMPUS IMPERFECTUM CUM PROLATIONE IMPERFECTA DIMINUTION-1
1D1CDaMUSICAL SYMBOL TEMPUS IMPERFECTUM CUM PROLATIONE IMPERFECTA DIMINUTION-2
1D1CEaMUSICAL SYMBOL TEMPUS IMPERFECTUM CUM PROLATIONE IMPERFECTA DIMINUTION-3
1D1CFaMUSICAL SYMBOL CROIXcGREGORIAN C CLEFdF CLEFcSQUARE BcVIRGAcPODATUS
1D1D5aMUSICAL SYMBOL CLIVIScSCANDICUScCLIMACUScTORCULUScPORRECTUSd FLEXUS
1D1DBaMUSICAL SYMBOL SCANDICUS FLEXUScTORCULUS RESUPINUScPES SUBPUNCTIS
1D1DEaMUSICAL SYMBOL KIEVAN C CLEFdEND OF PIECEdFINAL NOTEdRECITATIVE MARK
1D1E2aMUSICAL SYMBOL KIEVAN WHOLE NOTEdHALF NOTEdQUARTER NOTE STEM DOWNgUP
1D1E6aMUSICAL SYMBOL KIEVAN EIGHTH NOTE STEM DOWNgUPdFLAT SIGNcSORIcKORON
1D200aGREEK VOCAL NOTATION SYMBOL-1e2e3e4e5e6e7e8e9e10e11e12e13e14e15e16e17e18
1D212aGREEK VOCAL NOTATION SYMBOL-19e20e21e22e23e24e50e51e52e53e54
1D21DaGREEK INSTRUMENTAL NOTATION SYMBOL-1e2e4e5e7e8e11e12e13e14e17e18e19e23
1D22BaGREEK INSTRUMENTAL NOTATION SYMBOL-24e25e26e27e29e30e32e36e37e38e39e40
1D237aGREEK INSTRUMENTAL NOTATION SYMBOL-42e43e45e47e48e49e50e51e52e53e54
1D242aCOMBINING GREEK MUSICAL TRISEMEdTETRASEMEdPENTASEMEaGREEK MUSICAL LEIMMA
1D2E0aMAYAN NUMERAL ZEROcONEcTWOcTHREEcFOURcFIVEcSIXcSEVENcEIGHTcNINEcTEN
1D2EBaMAYAN NUMERAL ELEVENcTWELVEcTHIRTEENcFOURTEENcFIFTEENcSIXTEENcSEVENTEEN
1D2F2aMAYAN NUMERAL EIGHTEENcNINETEEN
1D300aMONOGRAM FOR EARTHaDIGRAM FOR HEAVENLY EARTHcHUMAN EARTHcEARTHLY HEAVEN
1D304aDIGRAM FOR EARTHLY HUMANcEARTHaTETRAGRAM FOR CENTREcFULL CIRCLEcMIRED
1D309aTETRAGRAM FOR BARRIERcKEEPING SMALLcCONTRARIETYcASCENTcOPPOSITION
1D30EaTETRAGRAM FOR BRANCHING OUTcDEFECTIVENESS OR DISTORTIONcDIVERGENCE
1D311aTETRAGRAM FOR YOUTHFULNESScINCREASEcPENETRATIONcREACHcCONTACT
1D316aTETRAGRAM FOR HOLDING BACKcWAITINGcFOLLOWINGcADVANCEcRELEASEcRESISTANCE
1D31CaTETRAGRAM FOR EASEcJOYcCONTENTIONcENDEAVOURcDUTIEScCHANGEcDECISIVENESS
1D323aTETRAGRAM FOR BOLD RESOLUTIONcPACKINGcLEGIONcCLOSENESScKINSHIPcGATHERING
1D329aTETRAGRAM FOR STRENGTHcPURITYcFULLNESScRESIDENCEcLAW OR MODELcRESPONSE
1D32FaTETRAGRAM FOR GOING TO MEETcENCOUNTERScSTOVEcGREATNESScENLARGEMENT
1D334aTETRAGRAM FOR PATTERNcRITUALcFLIGHTcVASTNESS OR WASTINGcCONSTANCY
1D339aTETRAGRAM FOR MEASUREcETERNITYcUNITYcDIMINISHMENTcCLOSED MOUTH
1D33EaTETRAGRAM FOR GUARDEDNESScGATHERING INcMASSINGcACCUMULATION
1D342aTETRAGRAM FOR EMBELLISHMENTcDOUBTcWATCHcSINKINGcINNERcDEPARTURE
1D348aTETRAGRAM FOR DARKENINGcDIMMINGcEXHAUSTIONcSEVERANCEcSTOPPAGEcHARDNESS
1D34EaTETRAGRAM FOR COMPLETIONcCLOSUREcFAILUREcAGGRAVATIONcCOMPLIANCE
1D353aTETRAGRAM FOR ON THE VERGEcDIFFICULTIEScLABOURINGcFOSTERING
1D360aCOUNTING ROD UNIT DIGIT ONEeTWOeTHREEeFOUReFIVEeSIXeSEVENeEIGHTeNINE
1D369aCOUNTING ROD TENS DIGIT ONEeTWOeTHREEeFOUReFIVEeSIXeSEVENeEIGHTeNINE
1D372aIDEOGRAPHIC TALLY MARK ONEdTWOdTHREEdFOURdFIVEaTALLY MARK ONEcFIVE
1D400aMATHEMATICAL BOLD CAPITAL AdBdCdDdEdFdGdHdIdJdKdLdMdNdOdPdQdRdSdTdUdVdW
1D417aMATHEMATICAL BOLD CAPITAL XdYdZcSMALL AdBdCdDdEdFdGdHdIdJdKdLdMdNdOdPdQ
1D42BaMATHEMATICAL BOLD SMALL RdSdTdUdVdWdXdYdZbITALIC CAPITAL AdBdCdDdEdFdGdH
1D43CaMATHEMATICAL ITALIC CAPITAL IdJdKdLdMdNdOdPdQdRdSdTdUdVdWdXdYdZcSMALL A
1D44FaMATHEMATICAL ITALIC SMALL BdCdDdEdFdG
1D456aMATHEMATICAL ITALIC SMALL IdJdKdLdMdNdOdPdQdRdSdTdUdVdWdXdYdZ
1D468aMATHEMATICAL BOLD ITALIC CAPITAL AeBeCeDeEeFeGeHeIeJeKeLeMeNeOePeQeReSeT
1D47CaMATHEMATICAL BOLD ITALIC CAPITAL UeVeWeXeYeZdSMALL AeBeCeDeEeFeGeHeIeJeK
1D48DaMATHEMATICAL BOLD ITALIC SMALL LeMeNeOePeQeReSeTeUeVeWeXeYeZ
1D49CaMATHEMATICAL SCRIPT CAPITAL A
1D49EaMATHEMATICAL SCRIPT CAPITAL CdD
1D4A2aMATHEMATICAL SCRIPT CAPITAL G
1D4A5aMATHEMATICAL SCRIPT CAPITAL JdK
1D4A9aMATHEMATICAL SCRIPT CAPITAL NdOdPdQ
1D4AEaMATHEMATICAL SCRIPT CAPITAL SdTdUdVdWdXdYdZcSMALL AdBdCdD
1D4BBaMATHEMATICAL SCRIPT SMALL F
1D4BDaMATHEMATICAL SCRIPT SMALL HdIdJdKdLdMdN
1D4C5aMATHEMATICAL SCRIPT SMALL PdQdRdSdTdUdVdWdXdYdZbBOLD SCRIPT CAPITAL AeB
1D4D2aMATHEMATICAL BOLD SCRIPT CAPITAL CeDeEeFeGeHeIeJeKeLeMeNeOePeQeReSeTeUeV
1D4E6aMATHEMATICAL BOLD SCRIPT CAPITAL WeXeYeZdSMALL AeBeCeDeEeFeGeHeIeJeKeLeM
1D4F7aMATHEMATICAL BOLD SCRIPT SMALL NeOePeQeReSeTeUeVeWeXeYeZ
1D504aMATHEMATICAL FRAKTUR CAPITAL AdB
1D507aMATHEMATICAL FRAKTUR CAPITAL DdEdFdG
1D50DaMATHEMATICAL FRAKTUR CAPITAL JdKdLdMdNdOdPdQ
1D516aMATHEMATICAL FRAKTUR CAPITAL SdTdUdVdWdXdY
1D51EaMATHEMATICAL FRAKTUR SMALL AdBdCdDdEdFdGdHdIdJdKdLdMdNdOdPdQdRdSdTdUdVdW
1D535aMATHEMATICAL FRAKTUR SMALL XdYdZbDOUBLE-STRUCK CAPITAL AeB
1D53BaMATHEMATICAL DOUBLE-STRUCK CAPITAL DeEeFeG
1D540aMATHEMATICAL DOUBLE-STRUCK CAPITAL IeJeKeLeM
1D546aMATHEMATICAL DOUBLE-STRUCK CAPITAL O
1D54AaMATHEMATICAL DOUBLE-STRUCK CAPITAL SeTeUeVeWeXeY
1D552aMATHEMATICAL DOUBLE-STRUCK SMALL AeBeCeDeEeFeGeHeIeJeKeLeMeNeOePeQeReSeT
1D566aMATHEMATICAL DOUBLE-STRUCK SMALL UeVeWeXeYeZbBOLD FRAKTUR CAPITAL AeBeC
1D56FaMATHEMATICAL BOLD FRAKTUR CAPITAL DeEeFeGeHeIeJeKeLeMeNeOePeQeReSeTeUeV
1D582aMATHEMATICAL BOLD FRAKTUR CAPITAL WeXeYeZdSMALL AeBeCeDeEeFeGeHeIeJeKeL
1D592aMATHEMATICAL BOLD FRAKTUR SMALL MeNeOePeQeReSeTeUeVeWeXeYeZ
1D5A0aMATHEMATICAL SANS-SERIF CAPITAL AeBeCeDeEeFeGeHeIeJeKeLeMeNeOePeQeReSeT
1D5B4aMATHEMATICAL SANS-SERIF CAPITAL UeVeWeXeYeZdSMALL AeBeCeDeEeFeGeHeIeJeK
1D5C5aMATHEMATICAL SANS-SERIF SMALL LeMeNeOePeQeReSeTeUeVeWeXeYeZ
1D5D4aMATHEMATICAL SANS-SERIF BOLD CAPITAL AfBfCfDfEfFfGfHfIfJfKfLfMfNfOfPfQfR
1D5E6aMATHEMATICAL SANS-SERIF BOLD CAPITAL SfTfUfVfWfXfYfZeSMALL AfBfCfDfEfFfG
1D5F5aMATHEMATICAL SANS-SERIF BOLD SMALL HfIfJfKfLfMfNfOfPfQfRfSfTfUfVfWfXfYfZ
1D608aMATHEMATICAL SANS-SERIF ITALIC CAPITAL AfBfCfDfEfFfGfHfIfJfKfLfMfNfOfPfQ
1D619aMATHEMATICAL SANS-SERIF ITALIC CAPITAL RfSfTfUfVfWfXfYfZeSMALL AfBfCfDfE
1D627aMATHEMATICAL SANS-SERIF ITALIC SMALL FfGfHfIfJfKfLfMfNfOfPfQfRfSfTfUfVfW
1D639aMATHEMATICAL SANS-SERIF ITALIC SMALL XfYfZdBOLD ITALIC CAPITAL AgBgCgDgE
1D641aMATHEMATICAL SANS-SERIF BOLD ITALIC CAPITAL FgGgHgIgJgKgLgMgNgOgPgQgRgS
1D64FaMATHEMATICAL SANS-SERIF BOLD ITALIC CAPITAL TgUgVgWgXgYgZfSMALL AgBgCgD
1D65AaMATHEMATICAL SANS-SERIF BOLD ITALIC SMALL EgFgGgHgIgJgKgLgMgNgOgPgQgRgS
1D669aMATHEMATICAL SANS-SERIF BOLD ITALIC SMALL TgUgVgWgXgYgZ
1D670aMATHEMATICAL MONOSPACE CAPITAL AdBdCdDdEdFdGdHdIdJdKdLdMdNdOdPdQdRdSdTdU
1D685aMATHEMATICAL MONOSPACE CAPITAL VdWdXdYdZcSMALL AdBdCdDdEdFdGdHdIdJdKdLdM
1D697aMATHEMATICAL MONOSPACE SMALL NdOdPdQdRdSdTdUdVdWdXdYdZ
1D6A4aMATHEMATICAL ITALIC SMALL DOTLESS IeJ
1D6A8aMATHEMATICAL BOLD CAPITAL ALPHAdBETAdGAMMAdDELTAdEPSILONdZETAdETAdTHETA
1D6B0aMATHEMATICAL BOLD CAPITAL IOTAdKAPPAdLAMDAdMUdNUdXIdOMICRONdPIdRHO
1D6B9aMATHEMATICAL BOLD CAPITAL THETA SYMBOLdSIGMAdTAUdUPSILONdPHIdCHIdPSI
1D6C0aMATHEMATICAL BOLD CAPITAL OMEGAcNABLAcSMALL ALPHAdBETAdGAMMAdDELTA
1D6C6aMATHEMATICAL BOLD SMALL EPSILONdZETAdETAdTHETAdIOTAdKAPPAdLAMDAdMUdNUdXI
1D6D0aMATHEMATICAL BOLD SMALL OMICRONdPIdRHOdFINAL SIGMAdSIGMAdTAUdUPSILONdPHI
1D6D8aMATHEMATICAL BOLD SMALL CHIdPSIdOMEGAcPARTIAL DIFFERENTIAL
1D6DCaMATHEMATICAL BOLD EPSILON SYMBOLcTHETA SYMBOLcKAPPA SYMBOLcPHI SYMBOL
1D6E0aMATHEMATICAL BOLD RHO SYMBOLcPI SYMBOLbITALIC CAPITAL ALPHAdBETAdGAMMA
1D6E5aMATHEMATICAL ITALIC CAPITAL DELTAdEPSILONdZETAdETAdTHETAdIOTAdKAPPA
1D6ECaMATHEMATICAL ITALIC CAPITAL LAMDAdMUdNUdXIdOMICRONdPIdRHOdTHETA SYMBOL
1D6F4aMATHEMATICAL ITALIC CAPITAL SIGMAdTAUdUPSILONdPHIdCHIdPSIdOMEGAcNABLA
1D6FCaMATHEMATICAL ITALIC SMALL ALPHAdBETAdGAMMAdDELTAdEPSILONdZETAdETAdTHETA
1D704aMATHEMATICAL ITALIC SMALL IOTAdKAPPAdLAMDAdMUdNUdXIdOMICRONdPIdRHO
1D70DaMATHEMATICAL ITALIC SMALL FINAL SIGMAdSIGMAdTAUdUPSILONdPHIdCHIdPSI
1D714aMATHEMATICAL ITALIC SMALL OMEGAcPARTIAL DIFFERENTIALcEPSILON SYMBOL
1D717aMATHEMATICAL ITALIC THETA SYMBOLcKAPPA SYMBOLcPHI SYMBOLcRHO SYMBOL
1D71BaMATHEMATICAL ITALIC PI SYMBOLbBOLD ITALIC CAPITAL ALPHAeBETAeGAMMAeDELTA
1D720aMATHEMATICAL BOLD ITALIC CAPITAL EPSILONeZETAeETAeTHETAeIOTAeKAPPAeLAMDA
1D727aMATHEMATICAL BOLD ITALIC CAPITAL MUeNUeXIeOMICRONePIeRHOeTHETA SYMBOL
1D72EaMATHEMATICAL BOLD ITALIC CAPITAL SIGMAeTAUeUPSILONePHIeCHIePSIeOMEGA
1D735aMATHEMATICAL BOLD ITALIC NABLAdSMALL ALPHAeBETAeGAMMAeDELTAeEPSILONeZETA
1D73CaMATHEMATICAL BOLD ITALIC SMALL ETAeTHETAeIOTAeKAPPAeLAMDAeMUeNUeXI
1D744aMATHEMATICAL BOLD ITALIC SMALL OMICRONePIeRHOeFINAL SIGMAeSIGMAeTAU
1D74AaMATHEMATICAL BOLD ITALIC SMALL UPSILONePHIeCHIePSIeOMEGA
1D74FaMATHEMATICAL BOLD ITALIC PARTIAL DIFFERENTIALdEPSILON SYMBOL
1D751aMATHEMATICAL BOLD ITALIC THETA SYMBOLdKAPPA SYMBOLdPHI SYMBOLdRHO SYMBOL
1D755aMATHEMATICAL BOLD ITALIC PI SYMBOLbSANS-SERIF BOLD CAPITAL ALPHAfBETA
1D758aMATHEMATICAL SANS-SERIF BOLD CAPITAL GAMMAfDELTAfEPSILONfZETAfETAfTHETA
1D75EaMATHEMATICAL SANS-SERIF BOLD CAPITAL IOTAfKAPPAfLAMDAfMUfNUfXIfOMICRON
1D765aMATHEMATICAL SANS-SERIF BOLD CAPITAL PIfRHOfTHETA SYMBOLfSIGMAfTAU
1D76AaMATHEMATICAL SANS-SERIF BOLD CAPITAL UPSILONfPHIfCHIfPSIfOMEGAeNABLA
1D770aMATHEMATICAL SANS-SERIF BOLD SMALL ALPHAfBETAfGAMMAfDELTAfEPSILONfZETA
1D776aMATHEMATICAL SANS-SERIF BOLD SMALL ETAfTHETAfIOTAfKAPPAfLAMDAfMUfNUfXI
1D77EaMATHEMATICAL SANS-SERIF BOLD SMALL OMICRONfPIfRHOfFINAL SIGMAfSIGMAfTAU
1D784aMATHEMATICAL SANS-SERIF BOLD SMALL UPSILONfPHIfCHIfPSIfOMEGA
1D789aMATHEMATICAL SANS-SERIF BOLD PARTIAL DIFFERENTIALeEPSILON SYMBOL
1D78BaMATHEMATICAL SANS-SERIF BOLD THETA SYMBOLeKAPPA SYMBOLePHI SYMBOL
1D78EaMATHEMATICAL SANS-SERIF BOLD RHO SYMBOLePI SYMBOLeITALIC CAPITAL ALPHA
1D791aMATHEMATICAL SANS-SERIF BOLD ITALIC CAPITAL BETAgGAMMAgDELTAgEPSILON
1D795aMATHEMATICAL SANS-SERIF BOLD ITALIC CAPITAL ZETAgETAgTHETAgIOTAgKAPPA
1D79AaMATHEMATICAL SANS-SERIF BOLD ITALIC CAPITAL LAMDAgMUgNUgXIgOMICRONgPI
1D7A0aMATHEMATICAL SANS-SERIF BOLD ITALIC CAPITAL RHOgTHETA SYMBOLgSIGMAgTAU
1D7A4aMATHEMATICAL SANS-SERIF BOLD ITALIC CAPITAL UPSILONgPHIgCHIgPSIgOMEGA
1D7A9aMATHEMATICAL SANS-SERIF BOLD ITALIC NABLAfSMALL ALPHAgBETAgGAMMAgDELTA
1D7AEaMATHEMATICAL SANS-SERIF BOLD ITALIC SMALL EPSILONgZETAgETAgTHETAgIOTA
1D7B3aMATHEMATICAL SANS-SERIF BOLD ITALIC SMALL KAPPAgLAMDAgMUgNUgXIgOMICRON
1D7B9aMATHEMATICAL SANS-SERIF BOLD ITALIC SMALL PIgRHOgFINAL SIGMAgSIGMAgTAU
1D7BEaMATHEMATICAL SANS-SERIF BOLD ITALIC SMALL UPSILONgPHIgCHIgPSIgOMEGA
1D7C3aMATHEMATICAL SANS-SERIF BOLD ITALIC PARTIAL DIFFERENTIALfEPSILON SYMBOL
1D7C5aMATHEMATICAL SANS-SERIF BOLD ITALIC THETA SYMBOLfKAPPA SYMBOLfPHI SYMBOL
1D7C8aMATHEMATICAL SANS-SERIF BOLD ITALIC RHO SYMBOLfPI SYMBOL
1D7CAaMATHEMATICAL BOLD CAPITAL DIGAMMAcSMALL DIGAMMA
1D7CEaMATHEMATICAL BOLD DIGIT ZEROdONEdTWOdTHREEdFOURdFIVEdSIXdSEVENdEIGHT
1D7D7aMATHEMATICAL BOLD DIGIT NINEbDOUBLE-STRUCK DIGIT ZEROeONEeTWOeTHREEeFOUR
1D7DDaMATHEMATICAL DOUBLE-STRUCK DIGIT FIVEeSIXeSEVENeEIGHTeNINE
1D7E2aMATHEMATICAL SANS-SERIF DIGIT ZEROeONEeTWOeTHREEeFOUReFIVEeSIXeSEVEN
1D7EAaMATHEMATICAL SANS-SERIF DIGIT EIGHTeNINEdBOLD DIGIT ZEROfONEfTWOfTHREE
1D7F0aMATHEMATICAL SANS-SERIF BOLD DIGIT FOURfFIVEfSIXfSEVENfEIGHTfNINE
1D7F6aMATHEMATICAL MONOSPACE DIGIT ZEROdONEdTWOdTHREEdFOURdFIVEdSIXdSEVEN
1D7FEaMATHEMATICAL MONOSPACE DIGIT EIGHTdNINEaSIGNWRITING HAND-FIST INDEX
1D801aSIGNWRITING HAND-CIRCLE INDEXcCUP INDEXcOVAL INDEXcHINGE INDEX
1D805aSIGNWRITING HAND-ANGLE INDEXcFIST INDEX BENTcCIRCLE INDEX BENT
1D808aSIGNWRITING HAND-FIST THUMB UNDER INDEX BENTdINDEX RAISED KNUCKLEeCUPPED
1D80BaSIGNWRITING HAND-FIST INDEX HINGEDf LOWcCIRCLE INDEX HINGE
1D80EaSIGNWRITING HAND-FIST INDEX MIDDLEcCIRCLE INDEX MIDDLE
1D810aSIGNWRITING HAND-FIST INDEX MIDDLE BENTfRAISED KNUCKLESfHINGED
1D813aSIGNWRITING HAND-FIST INDEX UP MIDDLE HINGEDeHINGED MIDDLE UP
1D815aSIGNWRITING HAND-FIST INDEX MIDDLE CONJOINEDg INDEX BENTgMIDDLE BENT
1D818aSIGNWRITING HAND-FIST INDEX MIDDLE CONJOINED CUPPEDgHINGEDfCROSSED
1D81BaSIGNWRITING HAND-CIRCLE INDEX MIDDLE CROSSEDcFIST MIDDLE BENT OVER INDEX
1D81DaSIGNWRITING HAND-FIST INDEX BENT OVER MIDDLEeMIDDLE THUMB
1D81FaSIGNWRITING HAND-CIRCLE INDEX MIDDLE THUMB
1D820aSIGNWRITING HAND-FIST INDEX MIDDLE STRAIGHT THUMB BENT
1D821aSIGNWRITING HAND-FIST INDEX MIDDLE BENT THUMB STRAIGHTfTHUMB BENT
1D823aSIGNWRITING HAND-FIST INDEX MIDDLE HINGED SPREAD THUMB SIDE
1D824aSIGNWRITING HAND-FIST INDEX UP MIDDLE HINGED THUMB SIDEiCONJOINED
1D826aSIGNWRITING HAND-FIST INDEX HINGED MIDDLE UP THUMB SIDE
1D827aSIGNWRITING HAND-FIST INDEX MIDDLE UP SPREAD THUMB FORWARDfTHUMB CUPPED
1D829aSIGNWRITING HAND-FIST INDEX MIDDLE THUMB CIRCLEDgHOOKEDgHINGED
1D82CaSIGNWRITING HAND-FIST THUMB BETWEEN INDEX MIDDLE STRAIGHT
1D82DaSIGNWRITING HAND-FIST INDEX MIDDLE CONJOINED THUMB SIDEi CONJOINEDiBENT
1D830aSIGNWRITING HAND-FIST MIDDLE THUMB HOOKED INDEX UP
1D831aSIGNWRITING HAND-FIST INDEX THUMB HOOKED MIDDLE UP
1D832aSIGNWRITING HAND-FIST INDEX MIDDLE CONJOINED HINGED THUMB SIDE
1D833aSIGNWRITING HAND-FIST INDEX MIDDLE CROSSED THUMB SIDE
1D834aSIGNWRITING HAND-FIST INDEX MIDDLE CONJOINED THUMB FORWARD
1D835aSIGNWRITING HAND-FIST INDEX MIDDLE CONJOINED CUPPED THUMB FORWARD
1D836aSIGNWRITING HAND-FIST MIDDLE THUMB CUPPED INDEX UP
1D837aSIGNWRITING HAND-FIST INDEX THUMB CUPPED MIDDLE UP
1D838aSIGNWRITING HAND-FIST MIDDLE THUMB CIRCLED INDEX UPhHINGED
1D83AaSIGNWRITING HAND-FIST INDEX THUMB ANGLED OUT MIDDLE UPgIN MIDDLE UP
1D83CaSIGNWRITING HAND-FIST INDEX THUMB CIRCLED MIDDLE UP
1D83DaSIGNWRITING HAND-FIST INDEX MIDDLE THUMB CONJOINED HINGEDgANGLED OUT
1D83FaSIGNWRITING HAND-FIST INDEX MIDDLE THUMB ANGLED
1D840aSIGNWRITING HAND-FIST MIDDLE THUMB ANGLED OUT INDEX UPiCROSSEDgINDEX UP
1D843aSIGNWRITING HAND-FIST INDEX THUMB HOOKED MIDDLE HINGEDcFLAT FOUR FINGERS
1D845aSIGNWRITING HAND-FLAT FOUR FINGERS BENTfHINGEDfCONJOINEDg SPLIT
1D849aSIGNWRITING HAND-CLAW FOUR FINGERS CONJOINED
1D84AaSIGNWRITING HAND-FIST FOUR FINGERS CONJOINED BENT
1D84BaSIGNWRITING HAND-HINGE FOUR FINGERS CONJOINEDcFLAT FIVE FINGERS SPREAD
1D84DaSIGNWRITING HAND-FLAT HEEL FIVE FINGERS SPREAD
1D84EaSIGNWRITING HAND-FLAT FIVE FINGERS SPREAD FOUR BENT
1D84FaSIGNWRITING HAND-FLAT HEEL FIVE FINGERS SPREAD FOUR BENT
1D850aSIGNWRITING HAND-FLAT FIVE FINGERS SPREAD BENT
1D851aSIGNWRITING HAND-FLAT HEEL FIVE FINGERS SPREAD BENT
1D852aSIGNWRITING HAND-FLAT FIVE FINGERS SPREAD THUMB FORWARD
1D853aSIGNWRITING HAND-CUP FIVE FINGERS SPREADg OPEN
1D855aSIGNWRITING HAND-HINGE FIVE FINGERS SPREAD OPENcOVAL FIVE FINGERS SPREAD
1D857aSIGNWRITING HAND-FLAT FIVE FINGERS SPREAD HINGEDh THUMB SIDEhNO THUMB
1D85AaSIGNWRITING HAND-FLATd BETWEEN PALM FACINGSdHEELdTHUMB SIDE
1D85EaSIGNWRITING HAND-FLAT HEEL THUMB SIDEdTHUMB BENTeFORWARD
1D861aSIGNWRITING HAND-FLAT SPLIT INDEX THUMB SIDEeCENTREf THUMB SIDEh BENT
1D865aSIGNWRITING HAND-FLAT SPLIT LITTLEcCLAWd THUMB SIDEdNO THUMB
1D869aSIGNWRITING HAND-CLAW THUMB FORWARDcHOOK CURLICUEcHOOKcCUP OPENcCUP
1D86EaSIGNWRITING HAND-CUP OPEN THUMB SIDEdTHUMB SIDEdOPEN NO THUMBdNO THUMB
1D872aSIGNWRITING HAND-CUP OPEN THUMB FORWARDdTHUMB FORWARDcCURLICUE OPEN
1D875aSIGNWRITING HAND-CURLICUEcCIRCLEcOVALd THUMB SIDEdNO THUMBdTHUMB FORWARD
1D87BaSIGNWRITING HAND-HINGE OPENe THUMB FORWARDcHINGEd SMALLdOPEN THUMB SIDE
1D880aSIGNWRITING HAND-HINGE THUMB SIDEdOPEN NO THUMBdNO THUMB
1D883aSIGNWRITING HAND-HINGE THUMB SIDE TOUCHING INDEXeBETWEEN MIDDLE RING
1D885aSIGNWRITING HAND-ANGLEcFIST INDEX MIDDLE RINGcCIRCLE INDEX MIDDLE RING
1D888aSIGNWRITING HAND-HINGE INDEX MIDDLE RINGcANGLE INDEX MIDDLE RING
1D88AaSIGNWRITING HAND-HINGE LITTLEcFIST INDEX MIDDLE RING BENTgCONJOINED
1D88DaSIGNWRITING HAND-HINGE INDEX MIDDLE RING CONJOINEDcFIST LITTLE DOWN
1D88FaSIGNWRITING HAND-FIST LITTLE DOWN RIPPLE STRAIGHTgCURVEDfOTHERS CIRCLED
1D892aSIGNWRITING HAND-FIST LITTLE UPdTHUMB UNDER LITTLE UPcCIRCLE LITTLE UP
1D895aSIGNWRITING HAND-OVAL LITTLE UPcANGLE LITTLE UP
1D897aSIGNWRITING HAND-FIST LITTLE RAISED KNUCKLEeBENTeTOUCHES THUMBeTHUMB
1D89BaSIGNWRITING HAND-HINGE LITTLE THUMBcFIST LITTLE INDEX THUMB
1D89DaSIGNWRITING HAND-HINGE LITTLE INDEX THUMB
1D89EaSIGNWRITING HAND-ANGLE LITTLE INDEX THUMB INDEX THUMB OUThTHUMB
1D8A0aSIGNWRITING HAND-FIST LITTLE INDEXcCIRCLE LITTLE INDEX
1D8A2aSIGNWRITING HAND-HINGE LITTLE INDEXcANGLE LITTLE INDEX
1D8A4aSIGNWRITING HAND-FIST INDEX MIDDLE LITTLEcCIRCLE INDEX MIDDLE LITTLE
1D8A6aSIGNWRITING HAND-HINGE INDEX MIDDLE LITTLEdRING
1D8A8aSIGNWRITING HAND-ANGLE INDEX MIDDLE LITTLE
1D8A9aSIGNWRITING HAND-FIST INDEX MIDDLE CROSS LITTLE
1D8AAaSIGNWRITING HAND-CIRCLE INDEX MIDDLE CROSS LITTLEcFIST RING DOWN
1D8ACaSIGNWRITING HAND-HINGE RING DOWN INDEX THUMB HOOK MIDDLE
1D8ADaSIGNWRITING HAND-ANGLE RING DOWN MIDDLE THUMB INDEX CROSScFIST RING UP
1D8AFaSIGNWRITING HAND-FIST RING RAISED KNUCKLEeLITTLEcCIRCLE RING LITTLE
1D8B2aSIGNWRITING HAND-OVAL RING LITTLEcANGLE RING LITTLEcFIST RING MIDDLE
1D8B5aSIGNWRITING HAND-FIST RING MIDDLE CONJOINEDfRAISED KNUCKLESeINDEXeTHUMB
1D8B9aSIGNWRITING HAND-HOOK RING THUMBcFIST INDEX RING LITTLE
1D8BBaSIGNWRITING HAND-CIRCLE INDEX RING LITTLEcCURLICUE INDEX RING LITTLE ON
1D8BDaSIGNWRITING HAND-HOOK INDEX RING LITTLE OUTgINgUNDER
1D8C0aSIGNWRITING HAND-CUP INDEX RING LITTLEcHINGE INDEX RING LITTLE
1D8C2aSIGNWRITING HAND-ANGLE INDEX RING LITTLE OUTfLITTLEcFIST MIDDLE DOWN
1D8C5aSIGNWRITING HAND-HINGE MIDDLEcFIST MIDDLE UPcCIRCLE MIDDLE UP
1D8C8aSIGNWRITING HAND-FIST MIDDLE RAISED KNUCKLEeUP THUMB SIDE
1D8CAaSIGNWRITING HAND-HOOK MIDDLE THUMBcFIST MIDDLE THUMB LITTLEeLITTLE
1D8CDaSIGNWRITING HAND-FIST MIDDLE RING LITTLEcCIRCLE MIDDLE RING LITTLE
1D8CFaSIGNWRITING HAND-CURLICUE MIDDLE RING LITTLE ONcCUP MIDDLE RING LITTLE
1D8D1aSIGNWRITING HAND-HINGE MIDDLE RING LITTLEcANGLE MIDDLE RING LITTLE OUT
1D8D3aSIGNWRITING HAND-ANGLE MIDDLE RING LITTLE INfLITTLE
1D8D5aSIGNWRITING HAND-CIRCLE MIDDLE RING LITTLE BENT
1D8D6aSIGNWRITING HAND-CLAW MIDDLE RING LITTLE CONJOINEDh SIDE
1D8D8aSIGNWRITING HAND-HOOK MIDDLE RING LITTLE CONJOINED OUThINgCONJOINED
1D8DBaSIGNWRITING HAND-HINGE INDEX HINGEDcFIST INDEX THUMB SIDE
1D8DDaSIGNWRITING HAND-HINGE INDEX THUMB SIDE
1D8DEaSIGNWRITING HAND-FIST INDEX THUMB SIDE THUMB DIAGONALhCONJOINEDhBENT
1D8E1aSIGNWRITING HAND-FIST INDEX THUMB SIDE INDEX BENTgBOTH BENTgINDEX HINGE
1D8E4aSIGNWRITING HAND-FIST INDEX THUMB FORWARD INDEX STRAIGHThBENTfHOOK
1D8E7aSIGNWRITING HAND-FIST INDEX THUMB CURLICUEfCURVE THUMB INSIDE
1D8E9aSIGNWRITING HAND-CLAW INDEX THUMB CURVE THUMB INSIDE
1D8EAaSIGNWRITING HAND-FIST INDEX THUMB CURVE THUMB UNDERfCIRCLE
1D8ECaSIGNWRITING HAND-CUP INDEX THUMBf OPENcHINGE INDEX THUMB OPENfLARGE
1D8F0aSIGNWRITING HAND-HINGE INDEX THUMBf SMALLcANGLE INDEX THUMB OUTfINeTHUMB
1D8F5aSIGNWRITING HAND-FIST THUMBe HEELeSIDE DIAGONALfCONJOINEDfBENTeFORWARD
1D8FBaSIGNWRITING HAND-FIST THUMB BETWEEN INDEX MIDDLEfMIDDLE RINGfRING LITTLE
1D8FEaSIGNWRITING HAND-FIST THUMB UNDER TWO FINGERSeOVER TWO FINGERS
1D900aSIGNWRITING HAND-FIST THUMB UNDER THREE FINGERSfFOUR FINGERS
1D902aSIGNWRITING HAND-FIST THUMB OVER FOUR RAISED KNUCKLEScFISTd HEEL
1D905aSIGNWRITING TOUCH SINGLEcMULTIPLEcBETWEENbGRASP SINGLEcMULTIPLEcBETWEEN
1D90BaSIGNWRITING STRIKE SINGLEcMULTIPLEcBETWEENbBRUSH SINGLEcMULTIPLEcBETWEEN
1D911aSIGNWRITING RUB SINGLEcMULTIPLEcBETWEENbSURFACE SYMBOLScBETWEEN
1D916aSIGNWRITING SQUEEZE LARGE SINGLEcSMALL SINGLEcLARGE MULTIPLE
1D919aSIGNWRITING SQUEEZE SMALL MULTIPLEcSEQUENTIALbFLICK LARGE SINGLE
1D91CaSIGNWRITING FLICK SMALL SINGLEcLARGE MULTIPLEcSMALL MULTIPLEcSEQUENTIAL
1D920aSIGNWRITING SQUEEZE FLICK ALTERNATINGbMOVEMENT-HINGE UP DOWN LARGEfSMALL
1D923aSIGNWRITING MOVEMENT-HINGE UP SEQUENTIALdDOWN SEQUENTIAL
1D925aSIGNWRITING MOVEMENT-HINGE UP DOWN ALTERNATING LARGEgSMALL
1D927aSIGNWRITING MOVEMENT-HINGE SIDE TO SIDE SCISSORS
1D928aSIGNWRITING MOVEMENT-WALLPLANE FINGER CONTACTcFLOORPLANE FINGER CONTACT
1D92AaSIGNWRITING MOVEMENT-WALLPLANE SINGLE STRAIGHT SMALLfMEDIUMfLARGEgST
1D92EaSIGNWRITING MOVEMENT-WALLPLANE SINGLE WRIST FLEXdDOUBLE STRAIGHT
1D930aSIGNWRITING MOVEMENT-WALLPLANE DOUBLE WRIST FLEXeALTERNATINGf WRIST FLEX
1D933aSIGNWRITING MOVEMENT-WALLPLANE CROSSdTRIPLE STRAIGHT MOVEMENTeWRIST FLEX
1D936aSIGNWRITING MOVEMENT-WALLPLANE TRIPLE ALTERNATINGf WRIST FLEXdBEND SMALL
1D939aSIGNWRITING MOVEMENT-WALLPLANE BEND MEDIUMeLARGEdCORNER SMALLeMEDIUM
1D93DaSIGNWRITING MOVEMENT-WALLPLANE CORNER LARGEeROTATIONdCHECK SMALLeMEDIUM
1D941aSIGNWRITING MOVEMENT-WALLPLANE CHECK LARGEdBOX SMALLeMEDIUMeLARGE
1D945aSIGNWRITING MOVEMENT-WALLPLANE ZIGZAG SMALLeMEDIUMeLARGEdPEAKS SMALL
1D949aSIGNWRITING MOVEMENT-WALLPLANE PEAKS MEDIUMeLARGE
1D94BaSIGNWRITING TRAVEL-WALLPLANE ROTATION-WALLPLANE SINGLEfDOUBLE
1D94DaSIGNWRITING TRAVEL-WALLPLANE ROTATION-WALLPLANE ALTERNATING
1D94EaSIGNWRITING TRAVEL-WALLPLANE ROTATION-FLOORPLANE SINGLEfDOUBLE
1D950aSIGNWRITING TRAVEL-WALLPLANE ROTATION-FLOORPLANE ALTERNATINGdSHAKING
1D952aSIGNWRITING TRAVEL-WALLPLANE ARM SPIRAL SINGLEfDOUBLEfTRIPLE
1D955aSIGNWRITING MOVEMENT-DIAGONAL AWAY SMALLeMEDIUMeLARGEfSTdTOWARDS SMALL
1D95AaSIGNWRITING MOVEMENT-DIAGONAL TOWARDS MEDIUMeLARGEfSTdBETWEEN AWAY SMALL
1D95EaSIGNWRITING MOVEMENT-DIAGONAL BETWEEN AWAY MEDIUMfLARGEgSTeTOWARDS SMALL
1D962aSIGNWRITING MOVEMENT-DIAGONAL BETWEEN TOWARDS MEDIUMfLARGEgST
1D965aSIGNWRITING MOVEMENT-FLOORPLANE SINGLE STRAIGHT SMALLfMEDIUMfLARGEgST
1D969aSIGNWRITING MOVEMENT-FLOORPLANE SINGLE WRIST FLEXdDOUBLE STRAIGHT
1D96BaSIGNWRITING MOVEMENT-FLOORPLANE DOUBLE WRIST FLEXeALTERNATING
1D96DaSIGNWRITING MOVEMENT-FLOORPLANE DOUBLE ALTERNATING WRIST FLEXdCROSS
1D96FaSIGNWRITING MOVEMENT-FLOORPLANE TRIPLE STRAIGHT MOVEMENTeWRIST FLEX
1D971aSIGNWRITING MOVEMENT-FLOORPLANE TRIPLE ALTERNATING MOVEMENTfWRIST FLEX
1D973aSIGNWRITING MOVEMENT-FLOORPLANE BENDdCORNER SMALLeMEDIUMeLARGEdCHECK
1D978aSIGNWRITING MOVEMENT-FLOORPLANE BOX SMALLeMEDIUMeLARGEdZIGZAG SMALL
1D97CaSIGNWRITING MOVEMENT-FLOORPLANE ZIGZAG MEDIUMeLARGEdPEAKS SMALLeMEDIUM
1D980aSIGNWRITING MOVEMENT-FLOORPLANE PEAKS LARGE
1D981aSIGNWRITING TRAVEL-FLOORPLANE ROTATION-FLOORPLANE SINGLEfDOUBLE
1D983aSIGNWRITING TRAVEL-FLOORPLANE ROTATION-FLOORPLANE ALTERNATING
1D984aSIGNWRITING TRAVEL-FLOORPLANE ROTATION-WALLPLANE SINGLEfDOUBLE
1D986aSIGNWRITING TRAVEL-FLOORPLANE ROTATION-WALLPLANE ALTERNATINGdSHAKING
1D988aSIGNWRITING MOVEMENT-WALLPLANE CURVE QUARTER SMALLfMEDIUMfLARGEgST
1D98CaSIGNWRITING MOVEMENT-WALLPLANE CURVE HALF-CIRCLE SMALLgMEDIUMgLARGEhST
1D990aSIGNWRITING MOVEMENT-WALLPLANE CURVE THREE-QUARTER CIRCLE SMALLhMEDIUM
1D992aSIGNWRITING MOVEMENT-WALLPLANE HUMP SMALLeMEDIUMeLARGEdLOOP SMALLeMEDIUM
1D997aSIGNWRITING MOVEMENT-WALLPLANE LOOP LARGEeSMALL DOUBLE
1D999aSIGNWRITING MOVEMENT-WALLPLANE WAVE CURVE DOUBLE SMALLgMEDIUMgLARGE
1D99CaSIGNWRITING MOVEMENT-WALLPLANE WAVE CURVE TRIPLE SMALLgMEDIUMgLARGE
1D99FaSIGNWRITING MOVEMENT-WALLPLANE CURVE THEN STRAIGHTdCURVED CROSS SMALL
1D9A1aSIGNWRITING MOVEMENT-WALLPLANE CURVED CROSS MEDIUM
1D9A2aSIGNWRITING ROTATION-WALLPLANE SINGLEdDOUBLEdALTERNATE
1D9A5aSIGNWRITING MOVEMENT-WALLPLANE SHAKINGdCURVE HITTING FRONT WALL
1D9A7aSIGNWRITING MOVEMENT-WALLPLANE HUMP HITTING FRONT WALL
1D9A8aSIGNWRITING MOVEMENT-WALLPLANE LOOP HITTING FRONT WALL
1D9A9aSIGNWRITING MOVEMENT-WALLPLANE WAVE HITTING FRONT WALL
1D9AAaSIGNWRITING ROTATION-WALLPLANE SINGLE HITTING FRONT WALL
1D9ABaSIGNWRITING ROTATION-WALLPLANE DOUBLE HITTING FRONT WALL
1D9ACaSIGNWRITING ROTATION-WALLPLANE ALTERNATING HITTING FRONT WALL
1D9ADaSIGNWRITING MOVEMENT-WALLPLANE CURVE HITTING CHESTdHUMP HITTING CHEST
1D9AFaSIGNWRITING MOVEMENT-WALLPLANE LOOP HITTING CHESTdWAVE HITTING CHEST
1D9B1aSIGNWRITING ROTATION-WALLPLANE SINGLE HITTING CHESTdDOUBLE HITTING CHEST
1D9B3aSIGNWRITING ROTATION-WALLPLANE ALTERNATING HITTING CHEST
1D9B4aSIGNWRITING MOVEMENT-WALLPLANE WAVE DIAGONAL PATH SMALLgMEDIUMgLARGE
1D9B7aSIGNWRITING MOVEMENT-FLOORPLANE CURVE HITTING CEILING SMALLgLARGE
1D9B9aSIGNWRITING MOVEMENT-FLOORPLANE HUMP HITTING CEILING SMALL DOUBLE
1D9BAaSIGNWRITING MOVEMENT-FLOORPLANE HUMP HITTING CEILING LARGE DOUBLE
1D9BBaSIGNWRITING MOVEMENT-FLOORPLANE HUMP HITTING CEILING SMALL TRIPLE
1D9BCaSIGNWRITING MOVEMENT-FLOORPLANE HUMP HITTING CEILING LARGE TRIPLE
1D9BDaSIGNWRITING MOVEMENT-FLOORPLANE LOOP HITTING CEILING SMALL SINGLE
1D9BEaSIGNWRITING MOVEMENT-FLOORPLANE LOOP HITTING CEILING LARGE SINGLE
1D9BFaSIGNWRITING MOVEMENT-FLOORPLANE LOOP HITTING CEILING SMALL DOUBLE
1D9C0aSIGNWRITING MOVEMENT-FLOORPLANE LOOP HITTING CEILING LARGE DOUBLE
1D9C1aSIGNWRITING MOVEMENT-FLOORPLANE WAVE HITTING CEILING SMALLgLARGE
1D9C3aSIGNWRITING ROTATION-FLOORPLANE SINGLE HITTING CEILING
1D9C4aSIGNWRITING ROTATION-FLOORPLANE DOUBLE HITTING CEILING
1D9C5aSIGNWRITING ROTATION-FLOORPLANE ALTERNATING HITTING CEILING
1D9C6aSIGNWRITING MOVEMENT-FLOORPLANE CURVE HITTING FLOOR SMALLgLARGE
1D9C8aSIGNWRITING MOVEMENT-FLOORPLANE HUMP HITTING FLOOR SMALL DOUBLE
1D9C9aSIGNWRITING MOVEMENT-FLOORPLANE HUMP HITTING FLOOR LARGE DOUBLE
1D9CAaSIGNWRITING MOVEMENT-FLOORPLANE HUMP HITTING FLOOR TRIPLE SMALL TRIPLE
1D9CBaSIGNWRITING MOVEMENT-FLOORPLANE HUMP HITTING FLOOR TRIPLE LARGE TRIPLE
1D9CCaSIGNWRITING MOVEMENT-FLOORPLANE LOOP HITTING FLOOR SMALL SINGLE
1D9CDaSIGNWRITING MOVEMENT-FLOORPLANE LOOP HITTING FLOOR LARGE SINGLE
1D9CEaSIGNWRITING MOVEMENT-FLOORPLANE LOOP HITTING FLOOR SMALL DOUBLE
1D9CFaSIGNWRITING MOVEMENT-FLOORPLANE LOOP HITTING FLOOR LARGE DOUBLE
1D9D0aSIGNWRITING MOVEMENT-FLOORPLANE WAVE HITTING FLOOR SMALLgLARGE
1D9D2aSIGNWRITING ROTATION-FLOORPLANE SINGLE HITTING FLOOR
1D9D3aSIGNWRITING ROTATION-FLOORPLANE DOUBLE HITTING FLOOR
1D9D4aSIGNWRITING ROTATION-FLOORPLANE ALTERNATING HITTING FLOOR
1D9D5aSIGNWRITING MOVEMENT-FLOORPLANE CURVE SMALLeMEDIUMeLARGEfSTeCOMBINED
1D9DAaSIGNWRITING MOVEMENT-FLOORPLANE HUMP SMALLdLOOP SMALLdWAVE SNAKEeSMALL
1D9DEaSIGNWRITING MOVEMENT-FLOORPLANE WAVE LARGEbROTATION-FLOORPLANE SINGLE
1D9E0aSIGNWRITING ROTATION-FLOORPLANE DOUBLEdALTERNATING
1D9E2aSIGNWRITING MOVEMENT-FLOORPLANE SHAKING PARALLEL
1D9E3aSIGNWRITING MOVEMENT-WALLPLANE ARM CIRCLE SMALL SINGLEfMEDIUM SINGLE
1D9E5aSIGNWRITING MOVEMENT-WALLPLANE ARM CIRCLE SMALL DOUBLEfMEDIUM DOUBLE
1D9E7aSIGNWRITING MOVEMENT-FLOORPLANE ARM CIRCLE HITTING WALL SMALL SINGLE
1D9E8aSIGNWRITING MOVEMENT-FLOORPLANE ARM CIRCLE HITTING WALL MEDIUM SINGLE
1D9E9aSIGNWRITING MOVEMENT-FLOORPLANE ARM CIRCLE HITTING WALL LARGE SINGLE
1D9EAaSIGNWRITING MOVEMENT-FLOORPLANE ARM CIRCLE HITTING WALL SMALL DOUBLE
1D9EBaSIGNWRITING MOVEMENT-FLOORPLANE ARM CIRCLE HITTING WALL MEDIUM DOUBLE
1D9ECaSIGNWRITING MOVEMENT-FLOORPLANE ARM CIRCLE HITTING WALL LARGE DOUBLE
1D9EDaSIGNWRITING MOVEMENT-WALLPLANE WRIST CIRCLE FRONT SINGLEgDOUBLE
1D9EFaSIGNWRITING MOVEMENT-FLOORPLANE WRIST CIRCLE HITTING WALL SINGLEhDOUBLE
1D9F1aSIGNWRITING MOVEMENT-WALLPLANE FINGER CIRCLES SINGLEfDOUBLE
1D9F3aSIGNWRITING MOVEMENT-FLOORPLANE FINGER CIRCLES HITTING WALL SINGLE
1D9F4aSIGNWRITING MOVEMENT-FLOORPLANE FINGER CIRCLES HITTING WALL DOUBLE
1D9F5aSIGNWRITING DYNAMIC ARROWHEAD SMALLdLARGEcFASTcSLOWcTENSEcRELAXED
1D9FBaSIGNWRITING DYNAMIC SIMULTANEOUSd ALTERNATINGcEVERY OTHER TIMEcGRADUAL
1D9FFaSIGNWRITING HEADc RIMcMOVEMENT-WALLPLANE STRAIGHTeTILT
1DA03aSIGNWRITING HEAD MOVEMENT-FLOORPLANE STRAIGHTdWALLPLANE CURVE
1DA05aSIGNWRITING HEAD MOVEMENT-FLOORPLANE CURVEcMOVEMENT CIRCLE
1DA07aSIGNWRITING FACE DIRECTION POSITION NOSE FORWARD TILTINGfUP OR DOWN
1DA09aSIGNWRITING FACE DIRECTION POSITION NOSE UP OR DOWN TILTING
1DA0AaSIGNWRITING EYEBROWS STRAIGHT UPdNEUTRALdDOWN
1DA0DaSIGNWRITING DREAMY EYEBROWS NEUTRAL DOWNdDOWN NEUTRALdUP NEUTRAL
1DA10aSIGNWRITING DREAMY EYEBROWS NEUTRAL UPbFOREHEAD NEUTRALcCONTACTcWRINKLED
1DA14aSIGNWRITING EYES OPENcSQUEEZEDcCLOSEDbEYE BLINK SINGLEdMULTIPLE
1DA19aSIGNWRITING EYES HALF OPENcWIDE OPENcHALF CLOSEDcWIDENING MOVEMENT
1DA1DaSIGNWRITING EYE WINKbEYELASHES UPcDOWNcFLUTTERING
1DA21aSIGNWRITING EYEGAZE-WALLPLANE STRAIGHTe DOUBLEeALTERNATING
1DA24aSIGNWRITING EYEGAZE-FLOORPLANE STRAIGHTe DOUBLEeALTERNATING
1DA27aSIGNWRITING EYEGAZE-WALLPLANE CURVEDcFLOORPLANE CURVED
1DA29aSIGNWRITING EYEGAZE-WALLPLANE CIRCLINGbCHEEKS PUFFEDcNEUTRALcSUCKED
1DA2DaSIGNWRITING TENSE CHEEKS HIGHdMIDDLEdLOWbEARSbNOSE NEUTRALcCONTACT
1DA33aSIGNWRITING NOSE WRINKLEScWIGGLESbAIR BLOWING OUTcSUCKING IN
1DA37aSIGNWRITING AIR BLOW SMALL ROTATIONScSUCK SMALL ROTATIONSbBREATH INHALE
1DA3AaSIGNWRITING BREATH EXHALEbMOUTH CLOSED NEUTRALdFORWARDdCONTACTcSMILE
1DA3FaSIGNWRITING MOUTH SMILE WRINKLEDdOPENcFROWNd WRINKLEDdOPENcOPEN CIRCLE
1DA45aSIGNWRITING MOUTH OPEN FORWARDdWRINKLEDdOVALe WRINKLEDeYAWNdRECTANGLE
1DA4BaSIGNWRITING MOUTH OPEN RECTANGLE WRINKLEDeYAWNcKISSd FORWARDdWRINKLED
1DA50aSIGNWRITING MOUTH TENSEd FORWARDdSUCKEDbLIPS PRESSED TOGETHER
1DA54aSIGNWRITING LIP LOWER OVER UPPERcUPPER OVER LOWERbMOUTH CORNERS
1DA57aSIGNWRITING MOUTH WRINKLES SINGLEdDOUBLEbTONGUE STICKING OUT FAR
1DA5AaSIGNWRITING TONGUE LICKING LIPScTIP BETWEEN LIPSdTOUCHING INSIDE MOUTH
1DA5DaSIGNWRITING TONGUE INSIDE MOUTH RELAXEDcMOVES AGAINST CHEEK
1DA5FaSIGNWRITING TONGUE CENTRE STICKING OUTdINSIDE MOUTHbTEETHc MOVEMENT
1DA63aSIGNWRITING TEETH ON TONGUEe MOVEMENTdLIPSe MOVEMENTcBITE LIPS
1DA68aSIGNWRITING MOVEMENT-WALLPLANE JAWcFLOORPLANE JAWbNECKbHAIRbEXCITEMENT
1DA6DaSIGNWRITING SHOULDER HIP SPINEdPOSITIONSbWALLPLANE SHOULDER HIP MOVE
1DA70aSIGNWRITING FLOORPLANE SHOULDER HIP MOVEbSHOULDER TILTING FROM WAIST
1DA72aSIGNWRITING TORSO-WALLPLANE STRAIGHT STRETCHdCURVED BEND
1DA74aSIGNWRITING TORSO-FLOORPLANE TWISTINGbUPPER BODY TILTING FROM HIP JOINTS
1DA76aSIGNWRITING LIMB COMBINATIONcLENGTH-1d2d3d4d5d6d7bFINGER
1DA7FaSIGNWRITING LOCATION-WALLPLANE SPACEcFLOORPLANE SPACEbLOCATION HEIGHT
1DA82aSIGNWRITING LOCATION WIDTHcDEPTHcHEAD NECKcTORSOcLIMBS DIGITSbCOMMA
1DA88aSIGNWRITING FULL STOPbSEMICOLONbCOLONbPARENTHESIS
1DA9BaSIGNWRITING FILL MODIFIER-2d3d4d5d6
1DAA1aSIGNWRITING ROTATION MODIFIER-2d3d4d5d6d7d8d9d10d11d12d13d14d15d16
1DF00aLATIN SMALL LETTER FENG DIGRAPH WITH TRILLdREVERSED SCRIPT G
1DF02aLATIN LETTER SMALL CAPITAL TURNED GbSMALL LETTER REVERSED K
1DF04aLATIN LETTER SMALL CAPITAL L WITH BELT
1DF05aLATIN SMALL LETTER LEZH WITH RETROFLEX HOOKdTURNED Y WITH BELT
1DF07aLATIN SMALL LETTER REVERSED ENG
1DF08aLATIN SMALL LETTER TURNED R WITH LONG LEG AND RETROFLEX HOOK
1DF09aLATIN SMALL LETTER T WITH HOOK AND RETROFLEX HOOK
1DF0AaLATIN LETTER RETROFLEX CLICK WITH RETROFLEX HOOK
1DF0BaLATIN SMALL LETTER ESH WITH DOUBLE BARh AND CURLdTURNED T WITH CURL
1DF0EaLATIN LETTER INVERTED GLOTTAL STOP WITH CURLcSTRETCHED C WITH CURL
1DF10aLATIN LETTER SMALL CAPITAL TURNED KbSMALL LETTER L WITH FISHHOOK
1DF12aLATIN SMALL LETTER DEZH DIGRAPH WITH PALATAL HOOK
1DF13aLATIN SMALL LETTER L WITH BELT AND PALATAL HOOKdENG WITH PALATAL HOOK
1DF15aLATIN SMALL LETTER TURNED R WITH PALATAL HOOK
1DF16aLATIN SMALL LETTER R WITH FISHHOOK AND PALATAL HOOK
1DF17aLATIN SMALL LETTER TESH DIGRAPH WITH PALATAL HOOKdEZH WITH PALATAL HOOK
1DF19aLATIN SMALL LETTER DEZH DIGRAPH WITH RETROFLEX HOOK
1DF1AaLATIN SMALL LETTER I WITH STROKE AND RETROFLEX HOOK
1DF1BaLATIN SMALL LETTER O WITH RETROFLEX HOOK
1DF1CaLATIN SMALL LETTER TESH DIGRAPH WITH RETROFLEX HOOK
1DF1DaLATIN SMALL LETTER C WITH RETROFLEX HOOKdS WITH CURL
1E000aCOMBINING GLAGOLITIC LETTER AZUdBUKYdVEDEdGLAGOLIdDOBROdYESTUdZHIVETE
1E008aCOMBINING GLAGOLITIC LETTER ZEMLJAdIZHEdINITIAL IZHEdIdDJERVIdKAKO
1E00EaCOMBINING GLAGOLITIC LETTER LJUDIJEdMYSLITEdNASHIdONUdPOKOJIdRITSIdSLOVO
1E015aCOMBINING GLAGOLITIC LETTER TVRIDOdUKUdFRITUdHERU
1E01BaCOMBINING GLAGOLITIC LETTER SHTAdTSIdCHRIVIdSHAdYERUdYERIdYATI
1E023aCOMBINING GLAGOLITIC LETTER YUdSMALL YUS
1E026aCOMBINING GLAGOLITIC LETTER YOdIOTATED SMALL YUSdBIG YUSdIOTATED BIG YUS
1E02AaCOMBINING GLAGOLITIC LETTER FITA
1E100aNYIAKENG PUACHUE HMONG LETTER MAeTSAeNTAeTAeHAeNAeXAeNKAeCAeLAeSAeZAeNCA
1E10DaNYIAKENG PUACHUE HMONG LETTER NTSAeKAeDAeNYAeNRAeVAeNTXAeTXAeFAeRAeQAeYA
1E119aNYIAKENG PUACHUE HMONG LETTER NQAePAeXYAeNPAeDLAeNPLAeHAHeMLAePLAeGAeRRA
1E124aNYIAKENG PUACHUE HMONG LETTER AfAeIeUeOfOeEfEeW
1E130aNYIAKENG PUACHUE HMONG TONE-BeMeJeVeSeGeDdSIGN FOR PERSONfTHINGfLOCATION
1E13AaNYIAKENG PUACHUE HMONG SIGN FOR ANIMALfINVERTEBRATEeXW XW
1E13DaNYIAKENG PUACHUE HMONG SYLLABLE LENGTHENER
1E140aNYIAKENG PUACHUE HMONG DIGIT ZEROeONEeTWOeTHREEeFOUReFIVEeSIXeSEVEN
1E148aNYIAKENG PUACHUE HMONG DIGIT EIGHTeNINE
1E14EaNYIAKENG PUACHUE HMONG LOGOGRAM NYAJdCIRCLED CA
1E290aTOTO LETTER PAcBAcTAcDAcKAcGAcMAcNAcNGAcSAcCHAcYAcWAcJAcHAcRAcLAcI
1E2A2aTOTO LETTER BREATHY IcIUcBREATHY IUcUcEcBREATHY EcEOcBREATHY EOcOcAE
1E2ACaTOTO LETTER BREATHY AEcAbSIGN RISING TONE
1E2C0aWANCHO LETTER AAcAcBAcCAcDAcGAcYAcPHAcLAcNAcPAcTAcTHAcFAcSAcSHAcJAcZAcWA
1E2D3aWANCHO LETTER VAcKAcOcAUcRAcMAcKHAcHAcEcIcNGAcUcLLHAcTSAcTRAcONGcAANG
1E2E4aWANCHO LETTER ANGcINGcONcENcAANcNYAcUENcYIHbTONE TUPdNIcKOIdNI
1E2F0aWANCHO DIGIT ZEROcONEcTWOcTHREEcFOURcFIVEcSIXcSEVENcEIGHTcNINE
1E2FFaWANCHO NGUN SIGN
1E7E0aETHIOPIC SYLLABLE HHYAcHHYUcHHYIcHHYAAcHHYEEcHHYEcHHYO
1E7E8aETHIOPIC SYLLABLE GURAGE HHWAcHHWIcHHWEEcHHWE
1E7EDaETHIOPIC SYLLABLE GURAGE MWIdMWEE
1E7F0aETHIOPIC SYLLABLE GURAGE QWIdQWEEdQWEdBWIdBWEEdKWIdKWEEdKWEdGWIdGWEEdGWE
1E7FBaETHIOPIC SYLLABLE GURAGE FWIdFWEEdPWIdPWEE
1E800aMENDE KIKAKUI SYLLABLE M001 KIdM002 KAdM003 KUdM065 KEEdM095 KEdM076 KOO
1E806aMENDE KIKAKUI SYLLABLE M048 KOdM179 KUAdM004 WIdM005 WAdM006 WUdM126 WEE
1E80CaMENDE KIKAKUI SYLLABLE M118 WEdM114 WOOdM045 WOdM194 WUIdM143 WEI
1E811aMENDE KIKAKUI SYLLABLE M061 WVIdM049 WVAdM139 WVEdM007 MINdM008 MAN
1E816aMENDE KIKAKUI SYLLABLE M009 MUNdM059 MENdM094 MONdM154 MUANdM189 MUEN
1E81BaMENDE KIKAKUI SYLLABLE M010 BIdM011 BAdM012 BUdM150 BEEdM097 BEdM103 BOO
1E821aMENDE KIKAKUI SYLLABLE M138 BOdM013 IdM014 AdM015 UdM163 EEdM100 E
1E827aMENDE KIKAKUI SYLLABLE M165 OOdM147 OdM137 EIdM131 INdM135 INdM195 AN
1E82DaMENDE KIKAKUI SYLLABLE M178 ENdM019 SIdM020 SAdM021 SUdM162 SEEdM116 SE
1E833aMENDE KIKAKUI SYLLABLE M136 SOOdM079 SOdM196 SIAdM025 LIdM026 LAdM027 LU
1E839aMENDE KIKAKUI SYLLABLE M084 LEEdM073 LEdM054 LOOdM153 LOdM110 LONG LE
1E83EaMENDE KIKAKUI SYLLABLE M016 DIdM017 DAdM018 DUdM089 DEEdM180 DOOdM181 DO
1E844aMENDE KIKAKUI SYLLABLE M022 TIdM023 TAdM024 TUdM091 TEEdM055 TEdM104 TOO
1E84AaMENDE KIKAKUI SYLLABLE M069 TOdM028 JIdM029 JAdM030 JUdM157 JEEdM113 JE
1E850aMENDE KIKAKUI SYLLABLE M160 JOOdM063 JOdM175 LONG JOdM031 YIdM032 YA
1E855aMENDE KIKAKUI SYLLABLE M033 YUdM109 YEEdM080 YEdM141 YOOdM121 YOdM034 FI
1E85BaMENDE KIKAKUI SYLLABLE M035 FAdM036 FUdM078 FEEdM075 FEdM133 FOOdM088 FO
1E861aMENDE KIKAKUI SYLLABLE M197 FUAdM101 FANdM037 NINdM038 NANdM039 NUN
1E866aMENDE KIKAKUI SYLLABLE M117 NENdM169 NONdM176 HIdM041 HAdM186 HU
1E86BaMENDE KIKAKUI SYLLABLE M040 HEEdM096 HEdM042 HOOdM140 HOdM083 HEEI
1E870aMENDE KIKAKUI SYLLABLE M128 HOOUdM053 HINdM130 HANdM087 HUNdM052 HEN
1E875aMENDE KIKAKUI SYLLABLE M193 HONdM046 HUANdM090 NGGIdM043 NGGAdM082 NGGU
1E87AaMENDE KIKAKUI SYLLABLE M115 NGGEEdM146 NGGEdM156 NGGOOdM120 NGGO
1E87EaMENDE KIKAKUI SYLLABLE M159 NGGAAdM127 NGGUAdM086 LONG NGGE
1E881aMENDE KIKAKUI SYLLABLE M106 LONG NGGOOdM183 LONG NGGOdM155 GIdM111 GA
1E885aMENDE KIKAKUI SYLLABLE M168 GUdM190 GEEdM166 GUEIdM167 GUANdM184 NGEN
1E88AaMENDE KIKAKUI SYLLABLE M057 NGONdM177 NGUANdM068 PIdM099 PAdM050 PU
1E88FaMENDE KIKAKUI SYLLABLE M081 PEEdM051 PEdM102 POOdM066 POdM145 MBI
1E894aMENDE KIKAKUI SYLLABLE M062 MBAdM122 MBUdM047 MBEEdM188 MBEEdM072 MBE
1E899aMENDE KIKAKUI SYLLABLE M172 MBOOdM174 MBOdM187 MBUUdM161 LONG MBE
1E89DaMENDE KIKAKUI SYLLABLE M105 LONG MBOOdM142 LONG MBOdM132 KPIdM092 KPA
1E8A1aMENDE KIKAKUI SYLLABLE M074 KPUdM044 KPEEdM108 KPEdM112 KPOOdM158 KPO
1E8A6aMENDE KIKAKUI SYLLABLE M124 GBIdM056 GBAdM148 GBUdM093 GBEEdM107 GBE
1E8ABaMENDE KIKAKUI SYLLABLE M071 GBOOdM070 GBOdM171 RAdM123 NDIdM129 NDA
1E8B0aMENDE KIKAKUI SYLLABLE M125 NDUdM191 NDEEdM119 NDEdM067 NDOOdM064 NDO
1E8B5aMENDE KIKAKUI SYLLABLE M152 NJAdM192 NJUdM149 NJEEdM134 NJOOdM182 VI
1E8BAaMENDE KIKAKUI SYLLABLE M185 VAdM151 VUdM173 VEEdM085 VEdM144 VOOdM077 VO
1E8C0aMENDE KIKAKUI SYLLABLE M164 NYINdM058 NYANdM170 NYUNdM098 NYENdM060 NYON
1E8C7aMENDE KIKAKUI DIGIT ONEdTWOdTHREEdFOURdFIVEdSIXdSEVENdEIGHTdNINE
1E8D0aMENDE KIKAKUI COMBINING NUMBER TEENSeTENSeHUNDREDSeTHOUSANDS
1E8D4aMENDE KIKAKUI COMBINING NUMBER TEN THOUSANDSeHUNDRED THOUSANDSeMILLIONS
1E900aADLAM CAPITAL LETTER ALIFdDAALIdLAAMdMIIMdBAdSINNYIIYHEdPEdBHEdRAdEdFAdI
1E90CaADLAM CAPITAL LETTER OdDHAdYHEdWAWdNUNdKAFdYAdUdJIIMdCHIdHAdQAAFdGAdNYA
1E91AaADLAM CAPITAL LETTER TUdNHAdVAdKHAdGBEdZALdKPOdSHAbSMALL LETTER ALIF
1E923aADLAM SMALL LETTER DAALIdLAAMdMIIMdBAdSINNYIIYHEdPEdBHEdRAdEdFAdIdOdDHA
1E930aADLAM SMALL LETTER YHEdWAWdNUNdKAFdYAdUdJIIMdCHIdHAdQAAFdGAdNYAdTUdNHA
1E93EaADLAM SMALL LETTER VAdKHAdGBEdZALdKPOdSHAbALIF LENGTHENER
1E945aADLAM VOWEL LENGTHENERbGEMINATION MARKbHAMZAbCONSONANT MODIFIER
1E949aADLAM GEMINATE CONSONANT MODIFIERbNUKTAbNASALIZATION MARK
1E950aADLAM DIGIT ZEROcONEcTWOcTHREEcFOURcFIVEcSIXcSEVENcEIGHTcNINE
1E95EaADLAM INITIAL EXCLAMATION MARKcQUESTION MARK
1EC71aINDIC SIYAQ NUMBER ONEdTWOdTHREEdFOURdFIVEdSIXdSEVENdEIGHTdNINEdTEN
1EC7BaINDIC SIYAQ NUMBER TWENTYdTHIRTYdFORTYdFIFTYdSIXTYdSEVENTYdEIGHTYdNINETY
1EC83aINDIC SIYAQ NUMBER ONE HUNDREDdTWO HUNDREDdTHREE HUNDREDdFOUR HUNDRED
1EC87aINDIC SIYAQ NUMBER FIVE HUNDREDdSIX HUNDREDdSEVEN HUNDREDdEIGHT HUNDRED
1EC8BaINDIC SIYAQ NUMBER NINE HUNDREDdONE THOUSANDdTWO THOUSANDdTHREE THOUSAND
1EC8FaINDIC SIYAQ NUMBER FOUR THOUSANDdFIVE THOUSANDdSIX THOUSAND
1EC92aINDIC SIYAQ NUMBER SEVEN THOUSANDdEIGHT THOUSANDdNINE THOUSAND
1EC95aINDIC SIYAQ NUMBER TEN THOUSANDdTWENTY THOUSANDdTHIRTY THOUSAND
1EC98aINDIC SIYAQ NUMBER FORTY THOUSANDdFIFTY THOUSANDdSIXTY THOUSAND
1EC9BaINDIC SIYAQ NUMBER SEVENTY THOUSANDdEIGHTY THOUSANDdNINETY THOUSANDdLAKH
1EC9FaINDIC SIYAQ NUMBER LAKHANcLAKH MARKcNUMBER KAROReANdPREFIXED ONEeTWO
1ECA5aINDIC SIYAQ NUMBER PREFIXED THREEeFOUReFIVEeSIXeSEVENeEIGHTeNINE
1ECACaINDIC SIYAQ PLACEHOLDERcFRACTION ONE QUARTEReHALFdTHREE QUARTERS
1ECB0aINDIC SIYAQ RUPEE MARKcNUMBER ALTERNATE ONEeTWOeTEN THOUSAND
1ECB4aINDIC SIYAQ ALTERNATE LAKH MARK
1ED01aOTTOMAN SIYAQ NUMBER ONEdTWOdTHREEdFOURdFIVEdSIXdSEVENdEIGHTdNINEdTEN
1ED0BaOTTOMAN SIYAQ NUMBER TWENTYdTHIRTYdFORTYdFIFTYdSIXTYdSEVENTYdEIGHTY
1ED12aOTTOMAN SIYAQ NUMBER NINETYdONE HUNDREDdTWO HUNDREDdTHREE HUNDRED
1ED16aOTTOMAN SIYAQ NUMBER FOUR HUNDREDdFIVE HUNDREDdSIX HUNDREDdSEVEN HUNDRED
1ED1AaOTTOMAN SIYAQ NUMBER EIGHT HUNDREDdNINE HUNDREDdONE THOUSAND
1ED1DaOTTOMAN SIYAQ NUMBER TWO THOUSANDdTHREE THOUSANDdFOUR THOUSAND
1ED20aOTTOMAN SIYAQ NUMBER FIVE THOUSANDdSIX THOUSANDdSEVEN THOUSAND
1ED23aOTTOMAN SIYAQ NUMBER EIGHT THOUSANDdNINE THOUSANDdTEN THOUSAND
1ED26aOTTOMAN SIYAQ NUMBER TWENTY THOUSANDdTHIRTY THOUSANDdFORTY THOUSAND
1ED29aOTTOMAN SIYAQ NUMBER FIFTY THOUSANDdSIXTY THOUSANDdSEVENTY THOUSAND
1ED2CaOTTOMAN SIYAQ NUMBER EIGHTY THOUSANDdNINETY THOUSANDcMARRATAN
1ED2FaOTTOMAN SIYAQ ALTERNATE NUMBER TWOeTHREEeFOUReFIVEeSIXeSEVENeEIGHTeNINE
1ED37aOTTOMAN SIYAQ ALTERNATE NUMBER TENeFOUR HUNDREDeSIX HUNDREDeTWO THOUSAND
1ED3BaOTTOMAN SIYAQ ALTERNATE NUMBER TEN THOUSANDcFRACTION ONE HALFeSIXTH
1EE00aARABIC MATHEMATICAL ALEFcBEHcJEEMcDAL
1EE05aARABIC MATHEMATICAL WAWcZAINcHAHcTAHcYEHcKAFcLAMcMEEMcNOONcSEENcAINcFEH
1EE11aARABIC MATHEMATICAL SADcQAFcREHcSHEENcTEHcTHEHcKHAHcTHALcDADcZAHcGHAIN
1EE1CaARABIC MATHEMATICAL DOTLESS BEHdNOONdFEHdQAF
1EE21aARABIC MATHEMATICAL INITIAL BEHdJEEM
1EE24aARABIC MATHEMATICAL INITIAL HEH
1EE27aARABIC MATHEMATICAL INITIAL HAH
1EE29aARABIC MATHEMATICAL INITIAL YEHdKAFdLAMdMEEMdNOONdSEENdAINdFEHdSADdQAF
1EE34aARABIC MATHEMATICAL INITIAL SHEENdTEHdTHEHdKHAH
1EE39aARABIC MATHEMATICAL INITIAL DAD
1EE3BaARABIC MATHEMATICAL INITIAL GHAIN
1EE42aARABIC MATHEMATICAL TAILED JEEM
1EE47aARABIC MATHEMATICAL TAILED HAH
1EE49aARABIC MATHEMATICAL TAILED YEH
1EE4BaARABIC MATHEMATICAL TAILED LAM
1EE4DaARABIC MATHEMATICAL TAILED NOONdSEENdAIN
1EE51aARABIC MATHEMATICAL TAILED SADdQAF
1EE54aARABIC MATHEMATICAL TAILED SHEEN
1EE57aARABIC MATHEMATICAL TAILED KHAH
1EE59aARABIC MATHEMATICAL TAILED DAD
1EE5BaARABIC MATHEMATICAL TAILED GHAIN
1EE5DaARABIC MATHEMATICAL TAILED DOTLESS NOON
1EE5FaARABIC MATHEMATICAL TAILED DOTLESS QAF
1EE61aARABIC MATHEMATICAL STRETCHED BEHdJEEM
1EE64aARABIC MATHEMATICAL STRETCHED HEH
1EE67aARABIC MATHEMATICAL STRETCHED HAHdTAHdYEHdKAF
1EE6CaARABIC MATHEMATICAL STRETCHED MEEMdNOONdSEENdAINdFEHdSADdQAF
1EE74aARABIC MATHEMATICAL STRETCHED SHEENdTEHdTHEHdKHAH
1EE79aARABIC MATHEMATICAL STRETCHED DADdZAHdGHAINdDOTLESS BEH
1EE7EaARABIC MATHEMATICAL STRETCHED DOTLESS FEH
1EE80aARABIC MATHEMATICAL LOOPED ALEFdBEHdJEEMdDALdHEHdWAWdZAINdHAHdTAHdYEH
1EE8BaARABIC MATHEMATICAL LOOPED LAMdMEEMdNOONdSEENdAINdFEHdSADdQAFdREHdSHEEN
1EE95aARABIC MATHEMATICAL LOOPED TEHdTHEHdKHAHdTHALdDADdZAHdGHAIN
1EEA1aARABIC MATHEMATICAL DOUBLE-STRUCK BEHeJEEMeDAL
1EEA5aARABIC MATHEMATICAL DOUBLE-STRUCK WAWeZAINeHAHeTAHeYEH
1EEABaARABIC MATHEMATICAL DOUBLE-STRUCK LAMeMEEMeNOONeSEENeAINeFEHeSADeQAFeREH
1EEB4aARABIC MATHEMATICAL DOUBLE-STRUCK SHEENeTEHeTHEHeKHAHeTHALeDADeZAHeGHAIN
1EEF0aARABIC MATHEMATICAL OPERATOR MEEM WITH HAH WITH TATWEELdHAH WITH DAL
1F000aMAHJONG TILE EAST WINDcSOUTH WINDcWEST WINDcNORTH WINDcRED DRAGON
1F005aMAHJONG TILE GREEN DRAGONcWHITE DRAGONcONE OF CHARACTERS
1F008aMAHJONG TILE TWO OF CHARACTERScTHREE OF CHARACTERScFOUR OF CHARACTERS
1F00BaMAHJONG TILE FIVE OF CHARACTERScSIX OF CHARACTERScSEVEN OF CHARACTERS
1F00EaMAHJONG TILE EIGHT OF CHARACTERScNINE OF CHARACTERScONE OF BAMBOOS
1F011aMAHJONG TILE TWO OF BAMBOOScTHREE OF BAMBOOScFOUR OF BAMBOOS
1F014aMAHJONG TILE FIVE OF BAMBOOScSIX OF BAMBOOScSEVEN OF BAMBOOS
1F017aMAHJONG TILE EIGHT OF BAMBOOScNINE OF BAMBOOScONE OF CIRCLES
1F01AaMAHJONG TILE TWO OF CIRCLEScTHREE OF CIRCLEScFOUR OF CIRCLES
1F01DaMAHJONG TILE FIVE OF CIRCLEScSIX OF CIRCLEScSEVEN OF CIRCLES
1F020aMAHJONG TILE EIGHT OF CIRCLEScNINE OF CIRCLEScPLUMcORCHIDcBAMBOO
1F025aMAHJONG TILE CHRYSANTHEMUMcSPRINGcSUMMERcAUTUMNcWINTERcJOKERcBACK
1F030aDOMINO TILE HORIZONTAL BACKcHORIZONTAL-00-00e01e02e03e04e05e06d01-00e01
1F03AaDOMINO TILE HORIZONTAL-01-02e03e04e05e06d02-00e01e02e03e04e05e06d03-00
1F047aDOMINO TILE HORIZONTAL-03-01e02e03e04e05e06d04-00e01e02e03e04e05e06
1F054aDOMINO TILE HORIZONTAL-05-00e01e02e03e04e05e06d06-00e01e02e03e04e05e06
1F062aDOMINO TILE VERTICAL BACKcVERTICAL-00-00e01e02e03e04e05e06d01-00e01e02
1F06DaDOMINO TILE VERTICAL-01-03e04e05e06d02-00e01e02e03e04e05e06d03-00e01e02
1F07BaDOMINO TILE VERTICAL-03-03e04e05e06d04-00e01e02e03e04e05e06d05-00e01e02
1F089aDOMINO TILE VERTICAL-05-03e04e05e06d06-00e01e02e03e04e05e06
1F0A0aPLAYING CARD BACKcACE OF SPADEScTWO OF SPADEScTHREE OF SPADES
1F0A4aPLAYING CARD FOUR OF SPADEScFIVE OF SPADEScSIX OF SPADEScSEVEN OF SPADES
1F0A8aPLAYING CARD EIGHT OF SPADEScNINE OF SPADEScTEN OF SPADEScJACK OF SPADES
1F0ACaPLAYING CARD KNIGHT OF SPADEScQUEEN OF SPADEScKING OF SPADES
1F0B1aPLAYING CARD ACE OF HEARTScTWO OF HEARTScTHREE OF HEARTScFOUR OF HEARTS
1F0B5aPLAYING CARD FIVE OF HEARTScSIX OF HEARTScSEVEN OF HEARTS
1F0B8aPLAYING CARD EIGHT OF HEARTScNINE OF HEARTScTEN OF HEARTScJACK OF HEARTS
1F0BCaPLAYING CARD KNIGHT OF HEARTScQUEEN OF HEARTScKING OF HEARTScRED JOKER
1F0C1aPLAYING CARD ACE OF DIAMONDScTWO OF DIAMONDScTHREE OF DIAMONDS
1F0C4aPLAYING CARD FOUR OF DIAMONDScFIVE OF DIAMONDScSIX OF DIAMONDS
1F0C7aPLAYING CARD SEVEN OF DIAMONDScEIGHT OF DIAMONDScNINE OF DIAMONDS
1F0CAaPLAYING CARD TEN OF DIAMONDScJACK OF DIAMONDScKNIGHT OF DIAMONDS
1F0CDaPLAYING CARD QUEEN OF DIAMONDScKING OF DIAMONDScBLACK JOKER
1F0D1aPLAYING CARD ACE OF CLUBScTWO OF CLUBScTHREE OF CLUBScFOUR OF CLUBS
1F0D5aPLAYING CARD FIVE OF CLUBScSIX OF CLUBScSEVEN OF CLUBScEIGHT OF CLUBS
1F0D9aPLAYING CARD NINE OF CLUBScTEN OF CLUBScJACK OF CLUBScKNIGHT OF CLUBS
1F0DDaPLAYING CARD QUEEN OF CLUBScKING OF CLUBScWHITE JOKERcFOOLcTRUMP-1d2d3d4
1F0E5aPLAYING CARD TRUMP-5d6d7d8d9d10d11d12d13d14d15d16d17d18d19d20d21
1F100aDIGIT ZERO FULL STOPcCOMMAbONE COMMAbTWO COMMAbTHREE COMMAbFOUR COMMA
1F106aDIGIT FIVE COMMAbSIX COMMAbSEVEN COMMAbEIGHT COMMAbNINE COMMA
1F10BaDINGBAT CIRCLED SANS-SERIF DIGIT ZERO
1F10CaDINGBAT NEGATIVE CIRCLED SANS-SERIF DIGIT ZEROaCIRCLED ZERO WITH SLASH
1F10EaCIRCLED ANTICLOCKWISE ARROWbDOLLAR SIGN WITH OVERLAID BACKSLASH
1F110aPARENTHESIZED LATIN CAPITAL LETTER AeBeCeDeEeFeGeHeIeJeKeLeMeNeOePeQeReS
1F123aPARENTHESIZED LATIN CAPITAL LETTER TeUeVeWeXeYeZ
1F12AaTORTOISE SHELL BRACKETED LATIN CAPITAL LETTER S
1F12BaCIRCLED ITALIC LATIN CAPITAL LETTER CfRbCDbWZaCOPYLEFT SYMBOL
1F130aSQUARED LATIN CAPITAL LETTER AeBeCeDeEeFeGeHeIeJeKeLeMeNeOePeQeReSeTeUeV
1F146aSQUARED LATIN CAPITAL LETTER WeXeYeZbHVbMVbSDbSSbPPVbWC
1F150aNEGATIVE CIRCLED LATIN CAPITAL LETTER AfBfCfDfEfFfGfHfIfJfKfLfMfNfOfPfQ
1F161aNEGATIVE CIRCLED LATIN CAPITAL LETTER RfSfTfUfVfWfXfYfZaRAISED MC SIGN
1F16BaRAISED MD SIGNbMR SIGNaCIRCLED CCbC WITH OVERLAID BACKSLASHbHUMAN FIGURE
1F170aNEGATIVE SQUARED LATIN CAPITAL LETTER AfBfCfDfEfFfGfHfIfJfKfLfMfNfOfPfQ
1F181aNEGATIVE SQUARED LATIN CAPITAL LETTER RfSfTfUfVfWfXfYfZ
1F18AaCROSSED NEGATIVE SQUARED LATIN CAPITAL LETTER PaNEGATIVE SQUARED ICcPA
1F18DaNEGATIVE SQUARED SAcABcWCaSQUARE DJaSQUARED CLbCOOLbFREEbIDbNEWbNGbOK
1F198aSQUARED SOSbUP WITH EXCLAMATION MARKbVSbTHREE DbSECOND SCREENbTWO K
1F19EaSQUARED FOUR KbEIGHT KbFIVE POINT ONEbSEVEN POINT ONE
1F1A2aSQUARED TWENTY-TWO POINT TWObSIXTY PbONE HUNDRED TWENTY P
1F1A5aSQUARED LATIN SMALL LETTER DbHCbHDRbHI-RESbLOSSLESSbSHVbUHDbVOD
1F1ADaMASK WORK SYMBOL
1F1E6aREGIONAL INDICATOR SYMBOL LETTER AeBeCeDeEeFeGeHeIeJeKeLeMeNeOePeQeReSeT
1F1FAaREGIONAL INDICATOR SYMBOL LETTER UeVeWeXeYeZaSQUARE HIRAGANA HOKA
1F201aSQUARED KATAKANA KOKOcSA
1F210aSQUARED CJK UNIFIED IDEOGRAPH-624Be5B57e53CCbKATAKANA DE
1F214aSQUARED CJK UNIFIED IDEOGRAPH-4E8Ce591Ae89E3e5929e4EA4e6620e7121e6599
1F21CaSQUARED CJK UNIFIED IDEOGRAPH-524De5F8Ce518De65B0e521De7D42e751Fe8CA9
1F224aSQUARED CJK UNIFIED IDEOGRAPH-58F0e5439e6F14e6295e6355e4E00e4E09e904A
1F22CaSQUARED CJK UNIFIED IDEOGRAPH-5DE6e4E2De53F3e6307e8D70e6253e7981e7A7A
1F234aSQUARED CJK UNIFIED IDEOGRAPH-5408e6E80e6709e6708e7533e5272e55B6e914D
1F240aTORTOISE SHELL BRACKETED CJK UNIFIED IDEOGRAPH-672Cg4E09g4E8Cg5B89g70B9
1F245aTORTOISE SHELL BRACKETED CJK UNIFIED IDEOGRAPH-6253g76D7g52DDg6557
1F250aCIRCLED IDEOGRAPH ADVANTAGEcACCEPT
1F260aROUNDED SYMBOL FOR FUdLUdSHOUdXIdSHUANGXIdCAI
1F300aCYCLONEaFOGGYaCLOSED UMBRELLAaNIGHT WITH STARSaSUNRISE OVER MOUNTAINS
1F305aSUNRISEaCITYSCAPE AT DUSKaSUNSET OVER BUILDINGSaRAINBOWaBRIDGE AT NIGHT
1F30AaWATER WAVEaVOLCANOaMILKY WAYaEARTH GLOBE EUROPE-AFRICAcAMERICAS
1F30FaEARTH GLOBE ASIA-AUSTRALIAaGLOBE WITH MERIDIANSaNEW MOON SYMBOL
1F312aWAXING CRESCENT MOON SYMBOLaFIRST QUARTER MOON SYMBOL
1F314aWAXING GIBBOUS MOON SYMBOLaFULL MOON SYMBOLaWANING GIBBOUS MOON SYMBOL
1F317aLAST QUARTER MOON SYMBOLaWANING CRESCENT MOON SYMBOLaCRESCENT MOON
1F31AaNEW MOON WITH FACEaFIRST QUARTER MOON WITH FACE
1F31CaLAST QUARTER MOON WITH FACEaFULL MOON WITH FACEaSUN WITH FACE
1F31FaGLOWING STARaSHOOTING STARaTHERMOMETERaBLACK DROPLETaWHITE SUN
1F324aWHITE SUN WITH SMALL CLOUDcBEHIND CLOUDe WITH RAINaCLOUD WITH RAINcSNOW
1F329aCLOUD WITH LIGHTNINGcTORNADOaFOGaWIND BLOWING FACEaHOT DOGaTACOaBURRITO
1F330aCHESTNUTaSEEDLINGaEVERGREEN TREEaDECIDUOUS TREEaPALM TREEaCACTUS
1F336aHOT PEPPERaTULIPaCHERRY BLOSSOMaROSEaHIBISCUSaSUNFLOWERaBLOSSOM
1F33DaEAR OF MAIZEcRICEaHERBaFOUR LEAF CLOVERaMAPLE LEAFaFALLEN LEAF
1F343aLEAF FLUTTERING IN WINDaMUSHROOMaTOMATOaAUBERGINEaGRAPESaMELON
1F349aWATERMELONaTANGERINEaLEMONaBANANAaPINEAPPLEaRED APPLEaGREEN APPLEaPEAR
1F351aPEACHaCHERRIESaSTRAWBERRYaHAMBURGERaSLICE OF PIZZAaMEAT ON BONE
1F357aPOULTRY LEGaRICE CRACKERbBALLaCOOKED RICEaCURRY AND RICEaSTEAMING BOWL
1F35DaSPAGHETTIaBREADaFRENCH FRIESaROASTED SWEET POTATOaDANGOaODENaSUSHI
1F364aFRIED SHRIMPaFISH CAKE WITH SWIRL DESIGNaSOFT ICE CREAMaSHAVED ICE
1F368aICE CREAMaDOUGHNUTaCOOKIEaCHOCOLATE BARaCANDYaLOLLIPOPaCUSTARDaHONEY POT
1F370aSHORTCAKEaBENTO BOXaPOT OF FOODaCOOKINGaFORK AND KNIFE
1F375aTEACUP WITHOUT HANDLEaSAKE BOTTLE AND CUPaWINE GLASSaCOCKTAIL GLASS
1F379aTROPICAL DRINKaBEER MUGaCLINKING BEER MUGSaBABY BOTTLE
1F37DaFORK AND KNIFE WITH PLATEaBOTTLE WITH POPPING CORKaPOPCORNaRIBBON
1F381aWRAPPED PRESENTaBIRTHDAY CAKEaJACK-O-LANTERNaCHRISTMAS TREE
1F385aFATHER CHRISTMASaFIREWORKSaFIREWORK SPARKLERaBALLOONaPARTY POPPER
1F38AaCONFETTI BALLaTANABATA TREEaCROSSED FLAGSaPINE DECORATIONaJAPANESE DOLLS
1F38FaCARP STREAMERaWIND CHIMEaMOON VIEWING CEREMONYaSCHOOL SATCHEL
1F393aGRADUATION CAPaHEART WITH TIP ON THE LEFTaBOUQUET OF FLOWERS
1F396aMILITARY MEDALaREMINDER RIBBONaMUSICAL KEYBOARD WITH JACKS
1F399aSTUDIO MICROPHONEaLEVEL SLIDERaCONTROL KNOBS
1F39CaBEAMED ASCENDING MUSICAL NOTESbDESCENDING MUSICAL NOTESaFILM FRAMES
1F39FaADMISSION TICKETSaCAROUSEL HORSEaFERRIS WHEELaROLLER COASTER
1F3A3aFISHING POLE AND FISHaMICROPHONEaMOVIE CAMERAaCINEMAaHEADPHONE
1F3A8aARTIST PALETTEaTOP HATaCIRCUS TENTaTICKETaCLAPPER BOARDaPERFORMING ARTS
1F3AEaVIDEO GAMEaDIRECT HITaSLOT MACHINEaBILLIARDSaGAME DIEaBOWLING
1F3B4aFLOWER PLAYING CARDSaMUSICAL NOTEaMULTIPLE MUSICAL NOTESaSAXOPHONE
1F3B8aGUITARaMUSICAL KEYBOARDaTRUMPETaVIOLINaMUSICAL SCORE
1F3BDaRUNNING SHIRT WITH SASHaTENNIS RACQUET AND BALLaSKI AND SKI BOOT
1F3C0aBASKETBALL AND HOOPaCHEQUERED FLAGaSNOWBOARDERaRUNNERaSURFER
1F3C5aSPORTS MEDALaTROPHYaHORSE RACINGaAMERICAN FOOTBALLaRUGBY FOOTBALL
1F3CAaSWIMMERaWEIGHT LIFTERaGOLFERaRACING MOTORCYCLEbCARaCRICKET BAT AND BALL
1F3D0aVOLLEYBALLaFIELD HOCKEY STICK AND BALLaICE HOCKEY STICK AND PUCK
1F3D3aTABLE TENNIS PADDLE AND BALLaSNOW CAPPED MOUNTAINaCAMPING
1F3D6aBEACH WITH UMBRELLAaBUILDING CONSTRUCTIONaHOUSE BUILDINGSaCITYSCAPE
1F3DAaDERELICT HOUSE BUILDINGaCLASSICAL BUILDINGaDESERTb ISLANDaNATIONAL PARK
1F3DFaSTADIUMaHOUSE BUILDINGbWITH GARDENaOFFICE BUILDINGaJAPANESE POST OFFICE
1F3E4aEUROPEAN POST OFFICEaHOSPITALaBANKaAUTOMATED TELLER MACHINEaHOTEL
1F3E9aLOVE HOTELaCONVENIENCE STOREaSCHOOLaDEPARTMENT STOREaFACTORY
1F3EEaIZAKAYA LANTERNaJAPANESE CASTLEaEUROPEAN CASTLEaWHITE PENNANT
1F3F2aBLACK PENNANTaWAVING WHITE FLAGbBLACK FLAGaROSETTEaBLACK ROSETTEaLABEL
1F3F8aBADMINTON RACQUET AND SHUTTLECOCKaBOW AND ARROWaAMPHORA
1F3FBaEMOJI MODIFIER FITZPATRICK TYPE-1-2e3e4e5e6aRATaMOUSEaOXaWATER BUFFALO
1F404aCOWaTIGERaLEOPARDaRABBITaCATaDRAGONaCROCODILEaWHALEaSNAILaSNAKEaHORSE
1F40FaRAMaGOATaSHEEPaMONKEYaROOSTERaCHICKENaDOGaPIGaBOARaELEPHANTaOCTOPUS
1F41AaSPIRAL SHELLaBUGaANTaHONEYBEEaLADY BEETLEaFISHaTROPICAL FISHaBLOWFISH
1F422aTURTLEaHATCHING CHICKaBABY CHICKaFRONT-FACING BABY CHICKaBIRDaPENGUIN
1F428aKOALAaPOODLEaDROMEDARY CAMELaBACTRIAN CAMELaDOLPHINaMOUSE FACEaCOW FACE
1F42FaTIGER FACEaRABBIT FACEaCAT FACEaDRAGON FACEaSPOUTING WHALEaHORSE FACE
1F435aMONKEY FACEaDOG FACEaPIG FACEaFROG FACEaHAMSTER FACEaWOLF FACEaBEAR FACE
1F43CaPANDA FACEaPIG NOSEaPAW PRINTSaCHIPMUNKaEYESaEYEaEARaNOSEaMOUTHaTONGUE
1F446aWHITE UP POINTING BACKHAND INDEXbDOWN POINTING BACKHAND INDEX
1F448aWHITE LEFT POINTING BACKHAND INDEXbRIGHT POINTING BACKHAND INDEX
1F44AaFISTED HAND SIGNaWAVING HAND SIGNaOK HAND SIGNaTHUMBS UP SIGNbDOWN SIGN
1F44FaCLAPPING HANDS SIGNaOPEN HANDS SIGNaCROWNaWOMANS HATaEYEGLASSESaNECKTIE
1F455aT-SHIRTaJEANSaDRESSaKIMONOaBIKINIaWOMANS CLOTHESaPURSEaHANDBAGaPOUCH
1F45EaMANS SHOEaATHLETIC SHOEaHIGH-HEELED SHOEaWOMANS SANDALbBOOTSaFOOTPRINTS
1F464aBUST IN SILHOUETTEaBUSTS IN SILHOUETTEaBOYaGIRLaMANaWOMANaFAMILY
1F46BaMAN AND WOMAN HOLDING HANDSaTWO MEN HOLDING HANDSbWOMEN HOLDING HANDS
1F46EaPOLICE OFFICERaWOMAN WITH BUNNY EARSaBRIDE WITH VEIL
1F471aPERSON WITH BLOND HAIRaMAN WITH GUA PI MAOcTURBANaOLDER MANbWOMANaBABY
1F477aCONSTRUCTION WORKERaPRINCESSaJAPANESE OGREbGOBLINaGHOSTaBABY ANGEL
1F47DaEXTRATERRESTRIAL ALIENaALIEN MONSTERaIMPaSKULLaINFORMATION DESK PERSON
1F482aGUARDSMANaDANCERaLIPSTICKaNAIL POLISHaFACE MASSAGEaHAIRCUTaBARBER POLE
1F489aSYRINGEaPILLaKISS MARKaLOVE LETTERaRINGaGEM STONEaKISSaBOUQUET
1F491aCOUPLE WITH HEARTaWEDDINGaBEATING HEARTaBROKEN HEARTaTWO HEARTS
1F496aSPARKLING HEARTaGROWING HEARTaHEART WITH ARROWaBLUE HEARTaGREEN HEART
1F49BaYELLOW HEARTaPURPLE HEARTaHEART WITH RIBBONaREVOLVING HEARTS
1F49FaHEART DECORATIONaDIAMOND SHAPE WITH A DOT INSIDEaELECTRIC LIGHT BULB
1F4A2aANGER SYMBOLaBOMBaSLEEPING SYMBOLaCOLLISION SYMBOL
1F4A6aSPLASHING SWEAT SYMBOLaDROPLETaDASH SYMBOLaPILE OF POOaFLEXED BICEPS
1F4ABaDIZZY SYMBOLaSPEECH BALLOONaTHOUGHT BALLOONaWHITE FLOWER
1F4AFaHUNDRED POINTS SYMBOLaMONEY BAGaCURRENCY EXCHANGEaHEAVY DOLLAR SIGN
1F4B3aCREDIT CARDaBANKNOTE WITH YEN SIGNcDOLLAR SIGNcEURO SIGNcPOUND SIGN
1F4B8aMONEY WITH WINGSaCHART WITH UPWARDS TREND AND YEN SIGNaSEAT
1F4BBaPERSONAL COMPUTERaBRIEFCASEaMINIDISCaFLOPPY DISKaOPTICAL DISCaDVD
1F4C1aFILE FOLDERaOPEN FILE FOLDERaPAGE WITH CURLbFACING UPaCALENDAR
1F4C6aTEAR-OFF CALENDARaCARD INDEXaCHART WITH UPWARDS TRENDcDOWNWARDS TREND
1F4CAaBAR CHARTaCLIPBOARDaPUSHPINaROUND PUSHPINaPAPERCLIPaSTRAIGHT RULER
1F4D0aTRIANGULAR RULERaBOOKMARK TABSaLEDGERaNOTEBOOKb WITH DECORATIVE COVER
1F4D5aCLOSED BOOKaOPEN BOOKaGREEN BOOKaBLUE BOOKaORANGE BOOKaBOOKSaNAME BADGE
1F4DCaSCROLLaMEMOaTELEPHONE RECEIVERaPAGERaFAX MACHINEaSATELLITE ANTENNA
1F4E2aPUBLIC ADDRESS LOUDSPEAKERaCHEERING MEGAPHONEaOUTBOX TRAYaINBOX TRAY
1F4E6aPACKAGEaE-MAIL SYMBOLaINCOMING ENVELOPE
1F4E9aENVELOPE WITH DOWNWARDS ARROW ABOVEaCLOSED MAILBOX WITH LOWERED FLAG
1F4EBaCLOSED MAILBOX WITH RAISED FLAGaOPEN MAILBOX WITH RAISED FLAG
1F4EDaOPEN MAILBOX WITH LOWERED FLAGaPOSTBOXaPOSTAL HORNaNEWSPAPER
1F4F1aMOBILE PHONEc WITH RIGHTWARDS ARROW AT LEFTaVIBRATION MODE
1F4F4aMOBILE PHONE OFFaNO MOBILE PHONESaANTENNA WITH BARSaCAMERAb WITH FLASH
1F4F9aVIDEO CAMERAaTELEVISIONaRADIOaVIDEOCASSETTEaFILM PROJECTOR
1F4FEaPORTABLE STEREOaPRAYER BEADSaTWISTED RIGHTWARDS ARROWS
1F501aCLOCKWISE RIGHTWARDS AND LEFTWARDS OPEN CIRCLE ARROWS
1F502aCLOCKWISE RIGHTWARDS AND LEFTWARDS OPEN CIRCLE ARROWS WITH CIRCLED " ++
"ONE OVERLAY
1F503aCLOCKWISE DOWNWARDS AND UPWARDS OPEN CIRCLE ARROWS
1F504aANTICLOCKWISE DOWNWARDS AND UPWARDS OPEN CIRCLE ARROWS
1F505aLOW BRIGHTNESS SYMBOLaHIGH BRIGHTNESS SYMBOL
1F507aSPEAKER WITH CANCELLATION STROKEaSPEAKERb WITH ONE SOUND WAVE
1F50AaSPEAKER WITH THREE SOUND WAVESaBATTERYaELECTRIC PLUG
1F50DaLEFT-POINTING MAGNIFYING GLASSaRIGHT-POINTING MAGNIFYING GLASS
1F50FaLOCK WITH INK PENaCLOSED LOCK WITH KEYaKEYaLOCKaOPEN LOCKaBELL
1F515aBELL WITH CANCELLATION STROKEaBOOKMARKaLINK SYMBOLaRADIO BUTTON
1F519aBACK WITH LEFTWARDS ARROW ABOVEaEND WITH LEFTWARDS ARROW ABOVE
1F51BaON WITH EXCLAMATION MARK WITH LEFT RIGHT ARROW ABOVE
1F51CaSOON WITH RIGHTWARDS ARROW ABOVEaTOP WITH UPWARDS ARROW ABOVE
1F51EaNO ONE UNDER EIGHTEEN SYMBOLaKEYCAP TEN
1F520aINPUT SYMBOL FOR LATIN CAPITAL LETTERSeSMALL LETTERSdNUMBERSdSYMBOLS
1F524aINPUT SYMBOL FOR LATIN LETTERSaFIREaELECTRIC TORCHaWRENCHaHAMMER
1F529aNUT AND BOLTaHOCHOaPISTOLaMICROSCOPEaTELESCOPEaCRYSTAL BALL
1F52FaSIX POINTED STAR WITH MIDDLE DOTaJAPANESE SYMBOL FOR BEGINNER
1F531aTRIDENT EMBLEMaBLACK SQUARE BUTTONaWHITE SQUARE BUTTONaLARGE RED CIRCLE
1F535aLARGE BLUE CIRCLEbORANGE DIAMONDbBLUE DIAMONDaSMALL ORANGE DIAMOND
1F539aSMALL BLUE DIAMONDaUP-POINTING RED TRIANGLEaDOWN-POINTING RED TRIANGLE
1F53CaUP-POINTING SMALL RED TRIANGLEaDOWN-POINTING SMALL RED TRIANGLE
1F53EaLOWER RIGHT SHADOWED WHITE CIRCLEaUPPER RIGHT SHADOWED WHITE CIRCLE
1F540aCIRCLED CROSS POMMEEaCROSS POMMEE WITH HALF-CIRCLE BELOWbPOMMEE
1F543aNOTCHED LEFT SEMICIRCLE WITH THREE DOTSbRIGHT SEMICIRCLE WITH THREE DOTS
1F545aSYMBOL FOR MARKS CHAPTERaWHITE LATIN CROSSaHEAVY LATIN CROSS
1F548aCELTIC CROSSaOM SYMBOLaDOVE OF PEACEaKAABAaMOSQUEaSYNAGOGUE
1F54EaMENORAH WITH NINE BRANCHESaBOWL OF HYGIEIAaCLOCK FACE ONE OCLOCK
1F551aCLOCK FACE TWO OCLOCKcTHREE OCLOCKcFOUR OCLOCKcFIVE OCLOCKcSIX OCLOCK
1F556aCLOCK FACE SEVEN OCLOCKcEIGHT OCLOCKcNINE OCLOCKcTEN OCLOCK
1F55AaCLOCK FACE ELEVEN OCLOCKcTWELVE OCLOCKcONE-THIRTYcTWO-THIRTY
1F55EaCLOCK FACE THREE-THIRTYcFOUR-THIRTYcFIVE-THIRTYcSIX-THIRTYcSEVEN-THIRTY
1F563aCLOCK FACE EIGHT-THIRTYcNINE-THIRTYcTEN-THIRTYcELEVEN-THIRTY
1F567aCLOCK FACE TWELVE-THIRTYaRIGHT SPEAKERc WITH ONE SOUND WAVE
1F56AaRIGHT SPEAKER WITH THREE SOUND WAVESaBULLHORNb WITH SOUND WAVES
1F56DaRINGING BELLaBOOKaCANDLEaMANTELPIECE CLOCKaBLACK SKULL AND CROSSBONES
1F572aNO PIRACYaHOLEaMAN IN BUSINESS SUIT LEVITATINGaSLEUTH OR SPY
1F576aDARK SUNGLASSESaSPIDERb WEBaJOYSTICKaMAN DANCING
1F57BaLEFT HAND TELEPHONE RECEIVERaTELEPHONE RECEIVER WITH PAGE
1F57DaRIGHT HAND TELEPHONE RECEIVERaWHITE TOUCHTONE TELEPHONE
1F57FaBLACK TOUCHTONE TELEPHONEaTELEPHONE ON TOP OF MODEM
1F581aCLAMSHELL MOBILE PHONEaBACK OF ENVELOPEaSTAMPED ENVELOPE
1F584aENVELOPE WITH LIGHTNINGaFLYING ENVELOPEaPEN OVER STAMPED ENVELOPE
1F587aLINKED PAPERCLIPSaBLACK PUSHPINaLOWER LEFT PENCILcBALLPOINT PEN
1F58BaLOWER LEFT FOUNTAIN PENcPAINTBRUSHcCRAYONaLEFT WRITING HAND
1F58FaTURNED OK HAND SIGNaRAISED HAND WITH FINGERS SPLAYED
1F591aREVERSED RAISED HAND WITH FINGERS SPLAYEDbTHUMBS UP SIGNcDOWN SIGN
1F594aREVERSED VICTORY HANDbHAND WITH MIDDLE FINGER EXTENDED
1F596aRAISED HAND WITH PART BETWEEN MIDDLE AND RING FINGERS
1F597aWHITE DOWN POINTING LEFT HAND INDEXaSIDEWAYS WHITE LEFT POINTING INDEX
1F599aSIDEWAYS WHITE RIGHT POINTING INDEXbBLACK LEFT POINTING INDEX
1F59BaSIDEWAYS BLACK RIGHT POINTING INDEXaBLACK LEFT POINTING BACKHAND INDEX
1F59DaBLACK RIGHT POINTING BACKHAND INDEXaSIDEWAYS WHITE UP POINTING INDEX
1F59FaSIDEWAYS WHITE DOWN POINTING INDEXbBLACK UP POINTING INDEX
1F5A1aSIDEWAYS BLACK DOWN POINTING INDEXaBLACK UP POINTING BACKHAND INDEX
1F5A3aBLACK DOWN POINTING BACKHAND INDEXbHEARTaDESKTOP COMPUTER
1F5A6aKEYBOARD AND MOUSEaTHREE NETWORKED COMPUTERSaPRINTERaPOCKET CALCULATOR
1F5AAaBLACK HARD SHELL FLOPPY DISKaWHITE HARD SHELL FLOPPY DISK
1F5ACaSOFT SHELL FLOPPY DISKaTAPE CARTRIDGEaWIRED KEYBOARDaONE BUTTON MOUSE
1F5B0aTWO BUTTON MOUSEaTHREE BUTTON MOUSEaTRACKBALLaOLD PERSONAL COMPUTER
1F5B4aHARD DISKaSCREENaPRINTER ICONaFAX ICONaOPTICAL DISC ICON
1F5B9aDOCUMENT WITH TEXTd AND PICTUREcPICTUREaFRAME WITH PICTUREcTILEScAN X
1F5BFaBLACK FOLDERaFOLDERaOPEN FOLDERaCARD INDEX DIVIDERSbFILE BOX
1F5C4aFILE CABINETaEMPTY NOTEc PAGEcPADaNOTEb PAGEbPADaEMPTY DOCUMENTbPAGEcS
1F5CEaDOCUMENTaPAGEbSaWASTEBASKETaSPIRAL NOTE PADbCALENDAR PADaDESKTOP WINDOW
1F5D5aMINIMIZEaMAXIMIZEaOVERLAPaCLOCKWISE RIGHT AND LEFT SEMICIRCLE ARROWS
1F5D9aCANCELLATION XaINCREASE FONT SIZE SYMBOLaDECREASE FONT SIZE SYMBOL
1F5DCaCOMPRESSIONaOLD KEYaROLLED-UP NEWSPAPERaPAGE WITH CIRCLED TEXT
1F5E0aSTOCK CHARTaDAGGER KNIFEaLIPSaSPEAKING HEAD IN SILHOUETTE
1F5E4aTHREE RAYS ABOVEcBELOWcLEFTcRIGHTaLEFT SPEECH BUBBLEaRIGHT SPEECH BUBBLE
1F5EAaTWO SPEECH BUBBLESaTHREE SPEECH BUBBLESaLEFT THOUGHT BUBBLE
1F5EDaRIGHT THOUGHT BUBBLEaLEFT ANGER BUBBLEaRIGHT ANGER BUBBLEaMOOD BUBBLE
1F5F1aLIGHTNING MOOD BUBBLEbMOODaBALLOT BOX WITH BALLOTbSCRIPT X
1F5F5aBALLOT BOX WITH SCRIPT XbBOLD SCRIPT XbBOX WITH BOLD SCRIPT X
1F5F8aLIGHT CHECK MARKaBALLOT BOX WITH BOLD CHECKaWORLD MAPaMOUNT FUJI
1F5FCaTOKYO TOWERaSTATUE OF LIBERTYaSILHOUETTE OF JAPANaMOYAIaGRINNING FACE
1F601aGRINNING FACE WITH SMILING EYESaFACE WITH TEARS OF JOY
1F603aSMILING FACE WITH OPEN MOUTHf AND SMILING EYESgCOLD SWEAT
1F606aSMILING FACE WITH OPEN MOUTH AND TIGHTLY-CLOSED EYESdHALOdHORNS
1F609aWINKING FACEaSMILING FACE WITH SMILING EYES
1F60BaFACE SAVOURING DELICIOUS FOODaRELIEVED FACE
1F60DaSMILING FACE WITH HEART-SHAPED EYESdSUNGLASSESaSMIRKING FACE
1F610aNEUTRAL FACEaEXPRESSIONLESS FACEaUNAMUSED FACEaFACE WITH COLD SWEAT
1F614aPENSIVE FACEaCONFUSED FACEaCONFOUNDED FACEaKISSING FACE
1F618aFACE THROWING A KISSaKISSING FACE WITH SMILING EYESdCLOSED EYES
1F61BaFACE WITH STUCK-OUT TONGUEf AND WINKING EYEgTIGHTLY-CLOSED EYES
1F61EaDISAPPOINTED FACEaWORRIED FACEaANGRY FACEaPOUTING FACEaCRYING FACE
1F623aPERSEVERING FACEaFACE WITH LOOK OF TRIUMPH
1F625aDISAPPOINTED BUT RELIEVED FACEaFROWNING FACE WITH OPEN MOUTH
1F627aANGUISHED FACEaFEARFUL FACEaWEARY FACEaSLEEPY FACEaTIRED FACE
1F62CaGRIMACING FACEaLOUDLY CRYING FACEaFACE WITH OPEN MOUTHaHUSHED FACE
1F630aFACE WITH OPEN MOUTH AND COLD SWEATbSCREAMING IN FEARaASTONISHED FACE
1F633aFLUSHED FACEaSLEEPING FACEaDIZZY FACEaFACE WITHOUT MOUTH
1F637aFACE WITH MEDICAL MASKaGRINNING CAT FACE WITH SMILING EYES
1F639aCAT FACE WITH TEARS OF JOYaSMILING CAT FACE WITH OPEN MOUTH
1F63BaSMILING CAT FACE WITH HEART-SHAPED EYESaCAT FACE WITH WRY SMILE
1F63DaKISSING CAT FACE WITH CLOSED EYESaPOUTING CAT FACEaCRYING CAT FACE
1F640aWEARY CAT FACEaSLIGHTLY FROWNING FACEbSMILING FACEaUPSIDE-DOWN FACE
1F644aFACE WITH ROLLING EYEScNO GOOD GESTUREcOK GESTUREaPERSON BOWING DEEPLY
1F648aSEE-NO-EVIL MONKEYaHEAR-NO-EVIL MONKEYaSPEAK-NO-EVIL MONKEY
1F64BaHAPPY PERSON RAISING ONE HANDaPERSON RAISING BOTH HANDS IN CELEBRATION
1F64DaPERSON FROWNINGbWITH POUTING FACEcFOLDED HANDSaNORTH WEST POINTING LEAF
1F651aSOUTH WEST POINTING LEAFaNORTH EAST POINTING LEAF
1F653aSOUTH EAST POINTING LEAFaTURNED NORTH WEST POINTING LEAF
1F655aTURNED SOUTH WEST POINTING LEAFbNORTH EAST POINTING LEAF
1F657aTURNED SOUTH EAST POINTING LEAFaNORTH WEST POINTING VINE LEAF
1F659aSOUTH WEST POINTING VINE LEAFaNORTH EAST POINTING VINE LEAF
1F65BaSOUTH EAST POINTING VINE LEAFaHEAVY NORTH WEST POINTING VINE LEAF
1F65DaHEAVY SOUTH WEST POINTING VINE LEAFbNORTH EAST POINTING VINE LEAF
1F65FaHEAVY SOUTH EAST POINTING VINE LEAFaNORTH WEST POINTING BUD
1F661aSOUTH WEST POINTING BUDaNORTH EAST POINTING BUDaSOUTH EAST POINTING BUD
1F664aHEAVY NORTH WEST POINTING BUDbSOUTH WEST POINTING BUD
1F666aHEAVY NORTH EAST POINTING BUDbSOUTH EAST POINTING BUD
1F668aHOLLOW QUILT SQUARE ORNAMENTe IN BLACK SQUARE
1F66AaSOLID QUILT SQUARE ORNAMENTe IN BLACK SQUAREaLEFTWARDS ROCKET
1F66DaUPWARDS ROCKETaRIGHTWARDS ROCKETaDOWNWARDS ROCKET
1F670aSCRIPT LIGATURE ET ORNAMENTaHEAVY SCRIPT LIGATURE ET ORNAMENT
1F672aLIGATURE OPEN ET ORNAMENTaHEAVY LIGATURE OPEN ET ORNAMENT
1F674aHEAVY AMPERSAND ORNAMENTaSWASH AMPERSAND ORNAMENT
1F676aSANS-SERIF HEAVY DOUBLE TURNED COMMA QUOTATION MARK ORNAMENT
1F677aSANS-SERIF HEAVY DOUBLE COMMA QUOTATION MARK ORNAMENT
1F678aSANS-SERIF HEAVY LOW DOUBLE COMMA QUOTATION MARK ORNAMENT
1F679aHEAVY INTERROBANG ORNAMENTaSANS-SERIF INTERROBANG ORNAMENT
1F67BaHEAVY SANS-SERIF INTERROBANG ORNAMENTaVERY HEAVY SOLIDUScREVERSE SOLIDUS
1F67EaCHECKER BOARDaREVERSE CHECKER BOARDaROCKETaHELICOPTERaSTEAM LOCOMOTIVE
1F683aRAILWAY CARaHIGH-SPEED TRAINd WITH BULLET NOSEaTRAINaMETROaLIGHT RAIL
1F689aSTATIONaTRAMb CARaBUSaONCOMING BUSaTROLLEYBUSaBUS STOPaMINIBUSaAMBULANCE
1F692aFIRE ENGINEaPOLICE CARaONCOMING POLICE CARaTAXIaONCOMING TAXIaAUTOMOBILE
1F698aONCOMING AUTOMOBILEaRECREATIONAL VEHICLEaDELIVERY TRUCK
1F69BaARTICULATED LORRYaTRACTORaMONORAILaMOUNTAIN RAILWAYaSUSPENSION RAILWAY
1F6A0aMOUNTAIN CABLEWAYaAERIAL TRAMWAYaSHIPaROWBOATaSPEEDBOAT
1F6A5aHORIZONTAL TRAFFIC LIGHTaVERTICAL TRAFFIC LIGHTaCONSTRUCTION SIGN
1F6A8aPOLICE CARS REVOLVING LIGHTaTRIANGULAR FLAG ON POSTaDOORaNO ENTRY SIGN
1F6ACaSMOKING SYMBOLaNO SMOKING SYMBOLaPUT LITTER IN ITS PLACE SYMBOL
1F6AFaDO NOT LITTER SYMBOLaPOTABLE WATER SYMBOLaNON-POTABLE WATER SYMBOL
1F6B2aBICYCLEaNO BICYCLESaBICYCLISTaMOUNTAIN BICYCLISTaPEDESTRIAN
1F6B7aNO PEDESTRIANSaCHILDREN CROSSINGaMENS SYMBOLaWOMENS SYMBOLaRESTROOM
1F6BCaBABY SYMBOLaTOILETaWATER CLOSETaSHOWERaBATHbTUBaPASSPORT CONTROLaCUSTOMS
1F6C4aBAGGAGE CLAIMaLEFT LUGGAGEaTRIANGLE WITH ROUNDED CORNERSaPROHIBITED SIGN
1F6C8aCIRCLED INFORMATION SOURCEaBOYS SYMBOLaGIRLS SYMBOLaCOUCH AND LAMP
1F6CCaSLEEPING ACCOMMODATIONaSHOPPING BAGSaBELLHOP BELLaBEDaPLACE OF WORSHIP
1F6D1aOCTAGONAL SIGNaSHOPPING TROLLEYaSTUPAaPAGODAaHINDU TEMPLEaHUTaELEVATOR
1F6DDaPLAYGROUND SLIDEaWHEELaRING BUOYaHAMMER AND WRENCHaSHIELDaOIL DRUM
1F6E3aMOTORWAYaRAILWAY TRACKaMOTOR BOATaUP-POINTING MILITARY AIRPLANEcAIRPLANE
1F6E8aUP-POINTING SMALL AIRPLANEaSMALL AIRPLANEaNORTHEAST-POINTING AIRPLANE
1F6EBaAIRPLANE DEPARTUREbARRIVING
1F6F0aSATELLITEaONCOMING FIRE ENGINEaDIESEL LOCOMOTIVEaPASSENGER SHIPaSCOOTER
1F6F5aMOTOR SCOOTERaCANOEaSLEDaFLYING SAUCERaSKATEBOARDaAUTO RICKSHAW
1F6FBaPICKUP TRUCKaROLLER SKATE
1F700aALCHEMICAL SYMBOL FOR QUINTESSENCEdAIRdFIREdEARTHdWATERdAQUAFORTIS
1F706aALCHEMICAL SYMBOL FOR AQUA REGIAf-2eVITAEf-2dVINEGARe-2e3dSULFUR
1F70EaALCHEMICAL SYMBOL FOR PHILOSOPHERS SULFURdBLACK SULFURdMERCURY SUBLIMATE
1F711aALCHEMICAL SYMBOL FOR MERCURY SUBLIMATE-2f3dCINNABARdSALTdNITREdVITRIOL
1F717aALCHEMICAL SYMBOL FOR VITRIOL-2dROCK SALTf-2dGOLDdSILVERdIRON OREf-2
1F71EaALCHEMICAL SYMBOL FOR CROCUS OF IRONdREGULUS OF IRONdCOPPER ORE
1F721aALCHEMICAL SYMBOL FOR IRON-COPPER OREdSUBLIMATE OF COPPER
1F723aALCHEMICAL SYMBOL FOR CROCUS OF COPPERg-2dCOPPER ANTIMONIATE
1F726aALCHEMICAL SYMBOL FOR SALT OF COPPER ANTIMONIATE
1F727aALCHEMICAL SYMBOL FOR SUBLIMATE OF SALT OF COPPERdVERDIGRISdTIN ORE
1F72AaALCHEMICAL SYMBOL FOR LEAD OREdANTIMONY OREdSUBLIMATE OF ANTIMONY
1F72DaALCHEMICAL SYMBOL FOR SALT OF ANTIMONYdSUBLIMATE OF SALT OF ANTIMONY
1F72FaALCHEMICAL SYMBOL FOR VINEGAR OF ANTIMONYdREGULUS OF ANTIMONYg-2dREGULUS
1F733aALCHEMICAL SYMBOL FOR REGULUS-2e3e4dALKALIe-2dMARCASITEdSAL-AMMONIAC
1F73AaALCHEMICAL SYMBOL FOR ARSENICdREALGARe-2dAURIPIGMENTdBISMUTH OREdTARTAR
1F740aALCHEMICAL SYMBOL FOR TARTAR-2dQUICK LIMEdBORAXe-2e3dALUMdOILdSPIRIT
1F748aALCHEMICAL SYMBOL FOR TINCTUREdGUMdWAXdPOWDERdCALXdTUTTYdCAPUT MORTUUM
1F74FaALCHEMICAL SYMBOL FOR SCEPTER OF JOVEdCADUCEUSdTRIDENTdSTARRED TRIDENT
1F753aALCHEMICAL SYMBOL FOR LODESTONEdSOAPdURINEdHORSE DUNGdASHESdPOT ASHES
1F759aALCHEMICAL SYMBOL FOR BRICKdPOWDERED BRICKdAMALGAMdSTRATUM SUPER STRATUM
1F75DaALCHEMICAL SYMBOL FOR STRATUM SUPER STRATUM-2dSUBLIMATIONdPRECIPITATE
1F760aALCHEMICAL SYMBOL FOR DISTILLdDISSOLVEe-2dPURIFYdPUTREFACTIONdCRUCIBLE
1F766aALCHEMICAL SYMBOL FOR CRUCIBLE-2e3e4e5dALEMBICdBATH OF MARYfVAPOURS
1F76DaALCHEMICAL SYMBOL FOR RETORTdHOURdNIGHTdDAY-NIGHTdMONTHdHALF DRAMeOUNCE
1F780aBLACK LEFT-POINTING ISOSCELES RIGHT TRIANGLE
1F781aBLACK UP-POINTING ISOSCELES RIGHT TRIANGLE
1F782aBLACK RIGHT-POINTING ISOSCELES RIGHT TRIANGLE
1F783aBLACK DOWN-POINTING ISOSCELES RIGHT TRIANGLEbSLIGHTLY SMALL CIRCLE
1F785aMEDIUM BOLD WHITE CIRCLEaBOLD WHITE CIRCLEaHEAVY WHITE CIRCLE
1F788aVERY HEAVY WHITE CIRCLEaEXTREMELY HEAVY WHITE CIRCLE
1F78AaWHITE CIRCLE CONTAINING BLACK SMALL CIRCLEaROUND TARGET
1F78CaBLACK TINY SQUAREbSLIGHTLY SMALL SQUAREaLIGHT WHITE SQUARE
1F78FaMEDIUM WHITE SQUAREaBOLD WHITE SQUAREaHEAVY WHITE SQUARE
1F792aVERY HEAVY WHITE SQUAREaEXTREMELY HEAVY WHITE SQUARE
1F794aWHITE SQUARE CONTAINING BLACK VERY SMALL SQUAREeMEDIUM SQUARE
1F796aSQUARE TARGETaBLACK TINY DIAMONDbVERY SMALL DIAMONDbMEDIUM SMALL DIAMOND
1F79AaWHITE DIAMOND CONTAINING BLACK VERY SMALL DIAMONDeMEDIUM DIAMOND
1F79CaDIAMOND TARGETaBLACK TINY LOZENGEbVERY SMALL LOZENGE
1F79FaBLACK MEDIUM SMALL LOZENGEaWHITE LOZENGE CONTAINING BLACK SMALL LOZENGE
1F7A1aTHIN GREEK CROSSaLIGHT GREEK CROSSaMEDIUM GREEK CROSSaBOLD GREEK CROSS
1F7A5aVERY BOLD GREEK CROSSbHEAVY GREEK CROSSaEXTREMELY HEAVY GREEK CROSS
1F7A8aTHIN SALTIREaLIGHT SALTIREaMEDIUM SALTIREaBOLD SALTIREaHEAVY SALTIRE
1F7ADaVERY HEAVY SALTIREaEXTREMELY HEAVY SALTIREaLIGHT FIVE SPOKED ASTERISK
1F7B0aMEDIUM FIVE SPOKED ASTERISKaBOLD FIVE SPOKED ASTERISK
1F7B2aHEAVY FIVE SPOKED ASTERISKaVERY HEAVY FIVE SPOKED ASTERISK
1F7B4aEXTREMELY HEAVY FIVE SPOKED ASTERISKaLIGHT SIX SPOKED ASTERISK
1F7B6aMEDIUM SIX SPOKED ASTERISKaBOLD SIX SPOKED ASTERISK
1F7B8aHEAVY SIX SPOKED ASTERISKaVERY HEAVY SIX SPOKED ASTERISK
1F7BAaEXTREMELY HEAVY SIX SPOKED ASTERISKaLIGHT EIGHT SPOKED ASTERISK
1F7BCaMEDIUM EIGHT SPOKED ASTERISKaBOLD EIGHT SPOKED ASTERISK
1F7BEaHEAVY EIGHT SPOKED ASTERISKaVERY HEAVY EIGHT SPOKED ASTERISK
1F7C0aLIGHT THREE POINTED BLACK STARaMEDIUM THREE POINTED BLACK STAR
1F7C2aTHREE POINTED BLACK STARaMEDIUM THREE POINTED PINWHEEL STAR
1F7C4aLIGHT FOUR POINTED BLACK STARaMEDIUM FOUR POINTED BLACK STAR
1F7C6aFOUR POINTED BLACK STARaMEDIUM FOUR POINTED PINWHEEL STAR
1F7C8aREVERSE LIGHT FOUR POINTED PINWHEEL STARaLIGHT FIVE POINTED BLACK STAR
1F7CAaHEAVY FIVE POINTED BLACK STARaMEDIUM SIX POINTED BLACK STAR
1F7CCaHEAVY SIX POINTED BLACK STARaSIX POINTED PINWHEEL STAR
1F7CEaMEDIUM EIGHT POINTED BLACK STARaHEAVY EIGHT POINTED BLACK STAR
1F7D0aVERY HEAVY EIGHT POINTED BLACK STARaHEAVY EIGHT POINTED PINWHEEL STAR
1F7D2aLIGHT TWELVE POINTED BLACK STARaHEAVY TWELVE POINTED BLACK STAR
1F7D4aHEAVY TWELVE POINTED PINWHEEL STARaCIRCLED TRIANGLE
1F7D6aNEGATIVE CIRCLED TRIANGLEaCIRCLED SQUAREaNEGATIVE CIRCLED SQUARE
1F7E0aLARGE ORANGE CIRCLEbYELLOW CIRCLEbGREEN CIRCLEbPURPLE CIRCLE
1F7E4aLARGE BROWN CIRCLEbRED SQUAREbBLUE SQUAREbORANGE SQUAREbYELLOW SQUARE
1F7E9aLARGE GREEN SQUAREbPURPLE SQUAREbBROWN SQUARE
1F7F0aHEAVY EQUALS SIGN
1F800aLEFTWARDS ARROW WITH SMALL TRIANGLE ARROWHEAD
1F801aUPWARDS ARROW WITH SMALL TRIANGLE ARROWHEAD
1F802aRIGHTWARDS ARROW WITH SMALL TRIANGLE ARROWHEAD
1F803aDOWNWARDS ARROW WITH SMALL TRIANGLE ARROWHEAD
1F804aLEFTWARDS ARROW WITH MEDIUM TRIANGLE ARROWHEAD
1F805aUPWARDS ARROW WITH MEDIUM TRIANGLE ARROWHEAD
1F806aRIGHTWARDS ARROW WITH MEDIUM TRIANGLE ARROWHEAD
1F807aDOWNWARDS ARROW WITH MEDIUM TRIANGLE ARROWHEAD
1F808aLEFTWARDS ARROW WITH LARGE TRIANGLE ARROWHEAD
1F809aUPWARDS ARROW WITH LARGE TRIANGLE ARROWHEAD
1F80AaRIGHTWARDS ARROW WITH LARGE TRIANGLE ARROWHEAD
1F80BaDOWNWARDS ARROW WITH LARGE TRIANGLE ARROWHEAD
1F810aLEFTWARDS ARROW WITH SMALL EQUILATERAL ARROWHEAD
1F811aUPWARDS ARROW WITH SMALL EQUILATERAL ARROWHEAD
1F812aRIGHTWARDS ARROW WITH SMALL EQUILATERAL ARROWHEAD
1F813aDOWNWARDS ARROW WITH SMALL EQUILATERAL ARROWHEAD
1F814aLEFTWARDS ARROW WITH EQUILATERAL ARROWHEAD
1F815aUPWARDS ARROW WITH EQUILATERAL ARROWHEAD
1F816aRIGHTWARDS ARROW WITH EQUILATERAL ARROWHEAD
1F817aDOWNWARDS ARROW WITH EQUILATERAL ARROWHEAD
1F818aHEAVY LEFTWARDS ARROW WITH EQUILATERAL ARROWHEAD
1F819aHEAVY UPWARDS ARROW WITH EQUILATERAL ARROWHEAD
1F81AaHEAVY RIGHTWARDS ARROW WITH EQUILATERAL ARROWHEAD
1F81BaHEAVY DOWNWARDS ARROW WITH EQUILATERAL ARROWHEAD
1F81CaHEAVY LEFTWARDS ARROW WITH LARGE EQUILATERAL ARROWHEAD
1F81DaHEAVY UPWARDS ARROW WITH LARGE EQUILATERAL ARROWHEAD
1F81EaHEAVY RIGHTWARDS ARROW WITH LARGE EQUILATERAL ARROWHEAD
1F81FaHEAVY DOWNWARDS ARROW WITH LARGE EQUILATERAL ARROWHEAD
1F820aLEFTWARDS TRIANGLE-HEADED ARROW WITH NARROW SHAFT
1F821aUPWARDS TRIANGLE-HEADED ARROW WITH NARROW SHAFT
1F822aRIGHTWARDS TRIANGLE-HEADED ARROW WITH NARROW SHAFT
1F823aDOWNWARDS TRIANGLE-HEADED ARROW WITH NARROW SHAFT
1F824aLEFTWARDS TRIANGLE-HEADED ARROW WITH MEDIUM SHAFT
1F825aUPWARDS TRIANGLE-HEADED ARROW WITH MEDIUM SHAFT
1F826aRIGHTWARDS TRIANGLE-HEADED ARROW WITH MEDIUM SHAFT
1F827aDOWNWARDS TRIANGLE-HEADED ARROW WITH MEDIUM SHAFT
1F828aLEFTWARDS TRIANGLE-HEADED ARROW WITH BOLD SHAFT
1F829aUPWARDS TRIANGLE-HEADED ARROW WITH BOLD SHAFT
1F82AaRIGHTWARDS TRIANGLE-HEADED ARROW WITH BOLD SHAFT
1F82BaDOWNWARDS TRIANGLE-HEADED ARROW WITH BOLD SHAFT
1F82CaLEFTWARDS TRIANGLE-HEADED ARROW WITH HEAVY SHAFT
1F82DaUPWARDS TRIANGLE-HEADED ARROW WITH HEAVY SHAFT
1F82EaRIGHTWARDS TRIANGLE-HEADED ARROW WITH HEAVY SHAFT
1F82FaDOWNWARDS TRIANGLE-HEADED ARROW WITH HEAVY SHAFT
1F830aLEFTWARDS TRIANGLE-HEADED ARROW WITH VERY HEAVY SHAFT
1F831aUPWARDS TRIANGLE-HEADED ARROW WITH VERY HEAVY SHAFT
1F832aRIGHTWARDS TRIANGLE-HEADED ARROW WITH VERY HEAVY SHAFT
1F833aDOWNWARDS TRIANGLE-HEADED ARROW WITH VERY HEAVY SHAFT
1F834aLEFTWARDS FINGER-POST ARROWaUPWARDS FINGER-POST ARROW
1F836aRIGHTWARDS FINGER-POST ARROWaDOWNWARDS FINGER-POST ARROW
1F838aLEFTWARDS SQUARED ARROWaUPWARDS SQUARED ARROWaRIGHTWARDS SQUARED ARROW
1F83BaDOWNWARDS SQUARED ARROWaLEFTWARDS COMPRESSED ARROW
1F83DaUPWARDS COMPRESSED ARROWaRIGHTWARDS COMPRESSED ARROW
1F83FaDOWNWARDS COMPRESSED ARROWaLEFTWARDS HEAVY COMPRESSED ARROW
1F841aUPWARDS HEAVY COMPRESSED ARROWaRIGHTWARDS HEAVY COMPRESSED ARROW
1F843aDOWNWARDS HEAVY COMPRESSED ARROWaLEFTWARDS HEAVY ARROW
1F845aUPWARDS HEAVY ARROWaRIGHTWARDS HEAVY ARROWaDOWNWARDS HEAVY ARROW
1F850aLEFTWARDS SANS-SERIF ARROWaUPWARDS SANS-SERIF ARROW
1F852aRIGHTWARDS SANS-SERIF ARROWaDOWNWARDS SANS-SERIF ARROW
1F854aNORTH WEST SANS-SERIF ARROWbEAST SANS-SERIF ARROW
1F856aSOUTH EAST SANS-SERIF ARROWbWEST SANS-SERIF ARROW
1F858aLEFT RIGHT SANS-SERIF ARROWaUP DOWN SANS-SERIF ARROW
1F860aWIDE-HEADED LEFTWARDS LIGHT BARB ARROWcUPWARDS LIGHT BARB ARROW
1F862aWIDE-HEADED RIGHTWARDS LIGHT BARB ARROWcDOWNWARDS LIGHT BARB ARROW
1F864aWIDE-HEADED NORTH WEST LIGHT BARB ARROWdEAST LIGHT BARB ARROW
1F866aWIDE-HEADED SOUTH EAST LIGHT BARB ARROWdWEST LIGHT BARB ARROW
1F868aWIDE-HEADED LEFTWARDS BARB ARROWcUPWARDS BARB ARROW
1F86AaWIDE-HEADED RIGHTWARDS BARB ARROWcDOWNWARDS BARB ARROW
1F86CaWIDE-HEADED NORTH WEST BARB ARROWdEAST BARB ARROWcSOUTH EAST BARB ARROW
1F86FaWIDE-HEADED SOUTH WEST BARB ARROWcLEFTWARDS MEDIUM BARB ARROW
1F871aWIDE-HEADED UPWARDS MEDIUM BARB ARROWcRIGHTWARDS MEDIUM BARB ARROW
1F873aWIDE-HEADED DOWNWARDS MEDIUM BARB ARROWcNORTH WEST MEDIUM BARB ARROW
1F875aWIDE-HEADED NORTH EAST MEDIUM BARB ARROWcSOUTH EAST MEDIUM BARB ARROW
1F877aWIDE-HEADED SOUTH WEST MEDIUM BARB ARROWcLEFTWARDS HEAVY BARB ARROW
1F879aWIDE-HEADED UPWARDS HEAVY BARB ARROWcRIGHTWARDS HEAVY BARB ARROW
1F87BaWIDE-HEADED DOWNWARDS HEAVY BARB ARROWcNORTH WEST HEAVY BARB ARROW
1F87DaWIDE-HEADED NORTH EAST HEAVY BARB ARROWcSOUTH EAST HEAVY BARB ARROW
1F87FaWIDE-HEADED SOUTH WEST HEAVY BARB ARROWcLEFTWARDS VERY HEAVY BARB ARROW
1F881aWIDE-HEADED UPWARDS VERY HEAVY BARB ARROW
1F882aWIDE-HEADED RIGHTWARDS VERY HEAVY BARB ARROW
1F883aWIDE-HEADED DOWNWARDS VERY HEAVY BARB ARROW
1F884aWIDE-HEADED NORTH WEST VERY HEAVY BARB ARROWdEAST VERY HEAVY BARB ARROW
1F886aWIDE-HEADED SOUTH EAST VERY HEAVY BARB ARROWdWEST VERY HEAVY BARB ARROW
1F890aLEFTWARDS TRIANGLE ARROWHEADaUPWARDS TRIANGLE ARROWHEAD
1F892aRIGHTWARDS TRIANGLE ARROWHEADaDOWNWARDS TRIANGLE ARROWHEAD
1F894aLEFTWARDS WHITE ARROW WITHIN TRIANGLE ARROWHEAD
1F895aUPWARDS WHITE ARROW WITHIN TRIANGLE ARROWHEAD
1F896aRIGHTWARDS WHITE ARROW WITHIN TRIANGLE ARROWHEAD
1F897aDOWNWARDS WHITE ARROW WITHIN TRIANGLE ARROWHEAD
1F898aLEFTWARDS ARROW WITH NOTCHED TAILaUPWARDS ARROW WITH NOTCHED TAIL
1F89AaRIGHTWARDS ARROW WITH NOTCHED TAILaDOWNWARDS ARROW WITH NOTCHED TAIL
1F89CaHEAVY ARROW SHAFT WIDTH ONEeTWO THIRDSeONE HALFfTHIRD
1F8A0aLEFTWARDS BOTTOM-SHADED WHITE ARROWaRIGHTWARDS BOTTOM SHADED WHITE ARROW
1F8A2aLEFTWARDS TOP SHADED WHITE ARROWaRIGHTWARDS TOP SHADED WHITE ARROW
1F8A4aLEFTWARDS LEFT-SHADED WHITE ARROWaRIGHTWARDS RIGHT-SHADED WHITE ARROW
1F8A6aLEFTWARDS RIGHT-SHADED WHITE ARROWaRIGHTWARDS LEFT-SHADED WHITE ARROW
1F8A8aLEFTWARDS BACK-TILTED SHADOWED WHITE ARROW
1F8A9aRIGHTWARDS BACK-TILTED SHADOWED WHITE ARROW
1F8AAaLEFTWARDS FRONT-TILTED SHADOWED WHITE ARROW
1F8ABaRIGHTWARDS FRONT-TILTED SHADOWED WHITE ARROWaWHITE ARROW SHAFT WIDTH ONE
1F8ADaWHITE ARROW SHAFT WIDTH TWO THIRDS
1F8B0aARROW POINTING UPWARDS THEN NORTH WEST
1F8B1aARROW POINTING RIGHTWARDS THEN CURVING SOUTH WEST
1F900aCIRCLED CROSS FORMEE WITH FOUR DOTSeTWO DOTScFORMEE
1F903aLEFT HALF CIRCLE WITH FOUR DOTSeTHREE DOTSeTWO DOTSeDOTcCIRCLE
1F908aDOWNWARD FACING HOOKcNOTCHED HOOKcHOOK WITH DOTcNOTCHED HOOK WITH DOT
1F90CaPINCHED FINGERSaWHITE HEARTaBROWN HEARTaPINCHING HANDaZIPPER-MOUTH FACE
1F911aMONEY-MOUTH FACEaFACE WITH THERMOMETERaNERD FACEaTHINKING FACE
1F915aFACE WITH HEAD-BANDAGEaROBOT FACEaHUGGING FACEaSIGN OF THE HORNS
1F919aCALL ME HANDaRAISED BACK OF HANDaLEFT-FACING FISTaRIGHT-FACING FIST
1F91DaHANDSHAKEaHAND WITH INDEX AND MIDDLE FINGERS CROSSED
1F91FaI LOVE YOU HAND SIGNaFACE WITH COWBOY HATaCLOWN FACEaNAUSEATED FACE
1F923aROLLING ON THE FLOOR LAUGHINGaDROOLING FACEaLYING FACEaFACE PALM
1F927aSNEEZING FACEaFACE WITH ONE EYEBROW RAISEDaGRINNING FACE WITH STAR EYES
1F92AaGRINNING FACE WITH ONE LARGE AND ONE SMALL EYE
1F92BaFACE WITH FINGER COVERING CLOSED LIPS
1F92CaSERIOUS FACE WITH SYMBOLS COVERING MOUTH
1F92DaSMILING FACE WITH SMILING EYES AND HAND COVERING MOUTH
1F92EaFACE WITH OPEN MOUTH VOMITINGaSHOCKED FACE WITH EXPLODING HEAD
1F930aPREGNANT WOMANaBREAST-FEEDINGaPALMS UP TOGETHERaSELFIEaPRINCE
1F935aMAN IN TUXEDOaMOTHER CHRISTMASaSHRUGaPERSON DOING CARTWHEELaJUGGLING
1F93AaFENCERaMODERN PENTATHLONaWRESTLERSaWATER POLOaHANDBALLaDIVING MASK
1F940aWILTED FLOWERaDRUM WITH DRUMSTICKSaCLINKING GLASSESaTUMBLER GLASSaSPOON
1F945aGOAL NETaRIFLEaFIRST PLACE MEDALaSECOND PLACE MEDALaTHIRD PLACE MEDAL
1F94AaBOXING GLOVEaMARTIAL ARTS UNIFORMaCURLING STONEaLACROSSE STICK AND BALL
1F94EaSOFTBALLaFLYING DISCaCROISSANTaAVOCADOaCUCUMBERaBACONaPOTATOaCARROT
1F956aBAGUETTE BREADaGREEN SALADaSHALLOW PAN OF FOODaSTUFFED FLATBREADaEGG
1F95BaGLASS OF MILKaPEANUTSaKIWIFRUITaPANCAKESaDUMPLINGaFORTUNE COOKIE
1F961aTAKEOUT BOXaCHOPSTICKSaBOWL WITH SPOONaCUP WITH STRAWaCOCONUTaBROCCOLI
1F967aPIEaPRETZELaCUT OF MEATaSANDWICHaCANNED FOODaLEAFY GREENaMANGOaMOON CAKE
1F96FaBAGELaSMILING FACE WITH SMILING EYES AND THREE HEARTSaYAWNING FACE
1F972aSMILING FACE WITH TEARaFACE WITH PARTY HORN AND PARTY HAT
1F974aFACE WITH UNEVEN EYES AND WAVY MOUTHaOVERHEATED FACEaFREEZING FACEaNINJA
1F978aDISGUISED FACEaFACE HOLDING BACK TEARSbWITH PLEADING EYESaSARIaLAB COAT
1F97DaGOGGLESaHIKING BOOTaFLAT SHOEaCRABaLION FACEaSCORPIONaTURKEY
1F984aUNICORN FACEaEAGLEaDUCKaBATaSHARKaOWLaFOX FACEaBUTTERFLYaDEERaGORILLA
1F98EaLIZARDaRHINOCEROSaSHRIMPaSQUIDaGIRAFFE FACEaZEBRA FACEaHEDGEHOGaSAUROPOD
1F996aT-REXaCRICKETaKANGAROOaLLAMAaPEACOCKaHIPPOPOTAMUSaPARROTaRACCOONaLOBSTER
1F99FaMOSQUITOaMICROBEaBADGERaSWANaMAMMOTHaDODOaSLOTHaOTTERaORANGUTANaSKUNK
1F9A9aFLAMINGOaOYSTERaBEAVERaBISONaSEALaGUIDE DOGaPROBING CANE
1F9B0aEMOJI COMPONENT RED HAIRcCURLY HAIRcBALDcWHITE HAIRaBONEaLEGaFOOTaTOOTH
1F9B8aSUPERHEROaSUPERVILLAINaSAFETY VESTaEAR WITH HEARING AID
1F9BCaMOTORIZED WHEELCHAIRaMANUAL WHEELCHAIRaMECHANICAL ARMbLEGaCHEESE WEDGE
1F9C1aCUPCAKEaSALT SHAKERaBEVERAGE BOXaGARLICaONIONaFALAFELaWAFFLEaBUTTER
1F9C9aMATE DRINKaICE CUBEaBUBBLE TEAaTROLLaSTANDING PERSONaKNEELING PERSON
1F9CFaDEAF PERSONaFACE WITH MONOCLEaADULTaCHILDaOLDER ADULTaBEARDED PERSON
1F9D5aPERSON WITH HEADSCARFbIN STEAMY ROOMbCLIMBINGbIN LOTUS POSITIONaMAGE
1F9DAaFAIRYaVAMPIREaMERPERSONaELFaGENIEaZOMBIEaBRAINaORANGE HEARTaBILLED CAP
1F9E3aSCARFaGLOVESaCOATaSOCKSaRED GIFT ENVELOPEaFIRECRACKER
1F9E9aJIGSAW PUZZLE PIECEaTEST TUBEaPETRI DISHaDNA DOUBLE HELIXaCOMPASSaABACUS
1F9EFaFIRE EXTINGUISHERaTOOLBOXaBRICKaMAGNETaLUGGAGEaLOTION BOTTLE
1F9F5aSPOOL OF THREADaBALL OF YARNaSAFETY PINaTEDDY BEARaBROOMaBASKET
1F9FBaROLL OF PAPERaBAR OF SOAPaSPONGEaRECEIPTaNAZAR AMULETaNEUTRAL CHESS KING
1FA01aNEUTRAL CHESS QUEENcROOKcBISHOPcKNIGHTcPAWN
1FA06aWHITE CHESS KNIGHT ROTATED FORTY-FIVE DEGREES
1FA07aBLACK CHESS KNIGHT ROTATED FORTY-FIVE DEGREES
1FA08aNEUTRAL CHESS KNIGHT ROTATED FORTY-FIVE DEGREES
1FA09aWHITE CHESS KING ROTATED NINETY DEGREEScQUEEN ROTATED NINETY DEGREES
1FA0BaWHITE CHESS ROOK ROTATED NINETY DEGREEScBISHOP ROTATED NINETY DEGREES
1FA0DaWHITE CHESS KNIGHT ROTATED NINETY DEGREEScPAWN ROTATED NINETY DEGREES
1FA0FaBLACK CHESS KING ROTATED NINETY DEGREEScQUEEN ROTATED NINETY DEGREES
1FA11aBLACK CHESS ROOK ROTATED NINETY DEGREEScBISHOP ROTATED NINETY DEGREES
1FA13aBLACK CHESS KNIGHT ROTATED NINETY DEGREEScPAWN ROTATED NINETY DEGREES
1FA15aNEUTRAL CHESS KING ROTATED NINETY DEGREEScQUEEN ROTATED NINETY DEGREES
1FA17aNEUTRAL CHESS ROOK ROTATED NINETY DEGREEScBISHOP ROTATED NINETY DEGREES
1FA19aNEUTRAL CHESS KNIGHT ROTATED NINETY DEGREEScPAWN ROTATED NINETY DEGREES
1FA1BaWHITE CHESS KNIGHT ROTATED ONE HUNDRED THIRTY-FIVE DEGREES
1FA1CaBLACK CHESS KNIGHT ROTATED ONE HUNDRED THIRTY-FIVE DEGREES
1FA1DaNEUTRAL CHESS KNIGHT ROTATED ONE HUNDRED THIRTY-FIVE DEGREES
1FA1EaWHITE CHESS TURNED KINGdQUEENdROOKdBISHOPdKNIGHTdPAWN
1FA24aBLACK CHESS TURNED KINGdQUEENdROOKdBISHOPdKNIGHTdPAWN
1FA2AaNEUTRAL CHESS TURNED KINGdQUEENdROOKdBISHOPdKNIGHTdPAWN
1FA30aWHITE CHESS KNIGHT ROTATED TWO HUNDRED TWENTY-FIVE DEGREES
1FA31aBLACK CHESS KNIGHT ROTATED TWO HUNDRED TWENTY-FIVE DEGREES
1FA32aNEUTRAL CHESS KNIGHT ROTATED TWO HUNDRED TWENTY-FIVE DEGREES
1FA33aWHITE CHESS KING ROTATED TWO HUNDRED SEVENTY DEGREES
1FA34aWHITE CHESS QUEEN ROTATED TWO HUNDRED SEVENTY DEGREES
1FA35aWHITE CHESS ROOK ROTATED TWO HUNDRED SEVENTY DEGREES
1FA36aWHITE CHESS BISHOP ROTATED TWO HUNDRED SEVENTY DEGREES
1FA37aWHITE CHESS KNIGHT ROTATED TWO HUNDRED SEVENTY DEGREES
1FA38aWHITE CHESS PAWN ROTATED TWO HUNDRED SEVENTY DEGREES
1FA39aBLACK CHESS KING ROTATED TWO HUNDRED SEVENTY DEGREES
1FA3AaBLACK CHESS QUEEN ROTATED TWO HUNDRED SEVENTY DEGREES
1FA3BaBLACK CHESS ROOK ROTATED TWO HUNDRED SEVENTY DEGREES
1FA3CaBLACK CHESS BISHOP ROTATED TWO HUNDRED SEVENTY DEGREES
1FA3DaBLACK CHESS KNIGHT ROTATED TWO HUNDRED SEVENTY DEGREES
1FA3EaBLACK CHESS PAWN ROTATED TWO HUNDRED SEVENTY DEGREES
1FA3FaNEUTRAL CHESS KING ROTATED TWO HUNDRED SEVENTY DEGREES
1FA40aNEUTRAL CHESS QUEEN ROTATED TWO HUNDRED SEVENTY DEGREES
1FA41aNEUTRAL CHESS ROOK ROTATED TWO HUNDRED SEVENTY DEGREES
1FA42aNEUTRAL CHESS BISHOP ROTATED TWO HUNDRED SEVENTY DEGREES
1FA43aNEUTRAL CHESS KNIGHT ROTATED TWO HUNDRED SEVENTY DEGREES
1FA44aNEUTRAL CHESS PAWN ROTATED TWO HUNDRED SEVENTY DEGREES
1FA45aWHITE CHESS KNIGHT ROTATED THREE HUNDRED FIFTEEN DEGREES
1FA46aBLACK CHESS KNIGHT ROTATED THREE HUNDRED FIFTEEN DEGREES
1FA47aNEUTRAL CHESS KNIGHT ROTATED THREE HUNDRED FIFTEEN DEGREES
1FA48aWHITE CHESS EQUIHOPPERaBLACK CHESS EQUIHOPPERaNEUTRAL CHESS EQUIHOPPER
1FA4BaWHITE CHESS EQUIHOPPER ROTATED NINETY DEGREES
1FA4CaBLACK CHESS EQUIHOPPER ROTATED NINETY DEGREES
1FA4DaNEUTRAL CHESS EQUIHOPPER ROTATED NINETY DEGREESaWHITE CHESS KNIGHT-QUEEN
1FA4FaWHITE CHESS KNIGHT-ROOKdBISHOPaBLACK CHESS KNIGHT-QUEENdROOKdBISHOP
1FA60aXIANGQI RED GENERALcMANDARINcELEPHANTcHORSEcCHARIOTcCANNONcSOLDIER
1FA67aXIANGQI BLACK GENERALcMANDARINcELEPHANTcHORSEcCHARIOTcCANNONcSOLDIER
1FA70aBALLET SHOESaONE-PIECE SWIMSUITaBRIEFSaSHORTSaTHONG SANDAL
1FA78aDROP OF BLOODaADHESIVE BANDAGEaSTETHOSCOPEaX-RAYaCRUTCH
1FA80aYO-YOaKITEaPARACHUTEaBOOMERANGaMAGIC WANDaPINATAaNESTING DOLLS
1FA90aRINGED PLANETaCHAIRaRAZORaAXEaDIYA LAMPaBANJOaMILITARY HELMETaACCORDION
1FA98aLONG DRUMaCOINaCARPENTRY SAWaSCREWDRIVERaLADDERaHOOKaMIRRORaWINDOW
1FAA0aPLUNGERaSEWING NEEDLEaKNOTaBUCKETaMOUSE TRAPaTOOTHBRUSHaHEADSTONE
1FAA7aPLACARDaROCKaMIRROR BALLaIDENTIFICATION CARDaLOW BATTERYaHAMSA
1FAB0aFLYaWORMaBEETLEaCOCKROACHaPOTTED PLANTaWOODaFEATHERaLOTUSaCORAL
1FAB9aEMPTY NESTaNEST WITH EGGS
1FAC0aANATOMICAL HEARTaLUNGSaPEOPLE HUGGINGaPREGNANT MANbPERSON
1FAC5aPERSON WITH CROWN
1FAD0aBLUEBERRIESaBELL PEPPERaOLIVEaFLATBREADaTAMALEaFONDUEaTEAPOT
1FAD7aPOURING LIQUIDaBEANSaJAR
1FAE0aMELTING FACEaSALUTING FACEaFACE WITH OPEN EYES AND HAND OVER MOUTH
1FAE3aFACE WITH PEEKING EYEcDIAGONAL MOUTHaDOTTED LINE FACEaBITING LIPaBUBBLES
1FAF0aHAND WITH INDEX FINGER AND THUMB CROSSEDaRIGHTWARDS HANDaLEFTWARDS HAND
1FAF3aPALM DOWN HANDbUP HANDaINDEX POINTING AT THE VIEWERaHEART HANDS
1FB00aBLOCK SEXTANT-1c2c12c3c13c23c123c4c14c24c124c34c134c234c1234c5c15c25c125
1FB13aBLOCK SEXTANT-35c235c1235c45c145c245c1245c345c1345c2345c12345c6c16c26
1FB21aBLOCK SEXTANT-126c36c136c236c1236c46c146c1246c346c1346c2346c12346c56c156
1FB2FaBLOCK SEXTANT-256c1256c356c1356c2356c12356c456c1456c2456c12456c3456
1FB3AaBLOCK SEXTANT-13456c23456
1FB3CaLOWER LEFT BLOCK DIAGONAL LOWER MIDDLE LEFT TO LOWER CENTREjRIGHT
1FB3EaLOWER LEFT BLOCK DIAGONAL UPPER MIDDLE LEFT TO LOWER CENTREjRIGHT
1FB40aLOWER LEFT BLOCK DIAGONAL UPPER LEFT TO LOWER CENTRE
1FB41aLOWER RIGHT BLOCK DIAGONAL UPPER MIDDLE LEFT TO UPPER CENTREjRIGHT
1FB43aLOWER RIGHT BLOCK DIAGONAL LOWER MIDDLE LEFT TO UPPER CENTREjRIGHT
1FB45aLOWER RIGHT BLOCK DIAGONAL LOWER LEFT TO UPPER CENTRE
1FB46aLOWER RIGHT BLOCK DIAGONAL LOWER MIDDLE LEFT TO UPPER MIDDLE RIGHT
1FB47aLOWER RIGHT BLOCK DIAGONAL LOWER CENTRE TO LOWER MIDDLE RIGHT
1FB48aLOWER RIGHT BLOCK DIAGONAL LOWER LEFT TO LOWER MIDDLE RIGHT
1FB49aLOWER RIGHT BLOCK DIAGONAL LOWER CENTRE TO UPPER MIDDLE RIGHT
1FB4AaLOWER RIGHT BLOCK DIAGONAL LOWER LEFT TO UPPER MIDDLE RIGHT
1FB4BaLOWER RIGHT BLOCK DIAGONAL LOWER CENTRE TO UPPER RIGHT
1FB4CaLOWER LEFT BLOCK DIAGONAL UPPER CENTRE TO UPPER MIDDLE RIGHT
1FB4DaLOWER LEFT BLOCK DIAGONAL UPPER LEFT TO UPPER MIDDLE RIGHT
1FB4EaLOWER LEFT BLOCK DIAGONAL UPPER CENTRE TO LOWER MIDDLE RIGHT
1FB4FaLOWER LEFT BLOCK DIAGONAL UPPER LEFT TO LOWER MIDDLE RIGHT
1FB50aLOWER LEFT BLOCK DIAGONAL UPPER CENTRE TO LOWER RIGHT
1FB51aLOWER LEFT BLOCK DIAGONAL UPPER MIDDLE LEFT TO LOWER MIDDLE RIGHT
1FB52aUPPER RIGHT BLOCK DIAGONAL LOWER MIDDLE LEFT TO LOWER CENTREjRIGHT
1FB54aUPPER RIGHT BLOCK DIAGONAL UPPER MIDDLE LEFT TO LOWER CENTREjRIGHT
1FB56aUPPER RIGHT BLOCK DIAGONAL UPPER LEFT TO LOWER CENTRE
1FB57aUPPER LEFT BLOCK DIAGONAL UPPER MIDDLE LEFT TO UPPER CENTREjRIGHT
1FB59aUPPER LEFT BLOCK DIAGONAL LOWER MIDDLE LEFT TO UPPER CENTREjRIGHT
1FB5BaUPPER LEFT BLOCK DIAGONAL LOWER LEFT TO UPPER CENTRE
1FB5CaUPPER LEFT BLOCK DIAGONAL LOWER MIDDLE LEFT TO UPPER MIDDLE RIGHT
1FB5DaUPPER LEFT BLOCK DIAGONAL LOWER CENTRE TO LOWER MIDDLE RIGHT
1FB5EaUPPER LEFT BLOCK DIAGONAL LOWER LEFT TO LOWER MIDDLE RIGHT
1FB5FaUPPER LEFT BLOCK DIAGONAL LOWER CENTRE TO UPPER MIDDLE RIGHT
1FB60aUPPER LEFT BLOCK DIAGONAL LOWER LEFT TO UPPER MIDDLE RIGHT
1FB61aUPPER LEFT BLOCK DIAGONAL LOWER CENTRE TO UPPER RIGHT
1FB62aUPPER RIGHT BLOCK DIAGONAL UPPER CENTRE TO UPPER MIDDLE RIGHT
1FB63aUPPER RIGHT BLOCK DIAGONAL UPPER LEFT TO UPPER MIDDLE RIGHT
1FB64aUPPER RIGHT BLOCK DIAGONAL UPPER CENTRE TO LOWER MIDDLE RIGHT
1FB65aUPPER RIGHT BLOCK DIAGONAL UPPER LEFT TO LOWER MIDDLE RIGHT
1FB66aUPPER RIGHT BLOCK DIAGONAL UPPER CENTRE TO LOWER RIGHT
1FB67aUPPER RIGHT BLOCK DIAGONAL UPPER MIDDLE LEFT TO LOWER MIDDLE RIGHT
1FB68aUPPER AND RIGHT AND LOWER TRIANGULAR THREE QUARTERS BLOCK
1FB69aLEFT AND LOWER AND RIGHT TRIANGULAR THREE QUARTERS BLOCK
1FB6AaUPPER AND LEFT AND LOWER TRIANGULAR THREE QUARTERS BLOCK
1FB6BaLEFT AND UPPER AND RIGHT TRIANGULAR THREE QUARTERS BLOCK
1FB6CaLEFT TRIANGULAR ONE QUARTER BLOCKaUPPER TRIANGULAR ONE QUARTER BLOCK
1FB6EaRIGHT TRIANGULAR ONE QUARTER BLOCKaLOWER TRIANGULAR ONE QUARTER BLOCK
1FB70aVERTICAL ONE EIGHTH BLOCK-2e3e4e5e6e7aHORIZONTAL ONE EIGHTH BLOCK-2e3e4
1FB79aHORIZONTAL ONE EIGHTH BLOCK-5e6e7aLEFT AND LOWER ONE EIGHTH BLOCK
1FB7DaLEFT AND UPPER ONE EIGHTH BLOCKaRIGHT AND UPPER ONE EIGHTH BLOCK
1FB7FaRIGHT AND LOWER ONE EIGHTH BLOCKaUPPER AND LOWER ONE EIGHTH BLOCK
1FB81aHORIZONTAL ONE EIGHTH BLOCK-1358aUPPER ONE QUARTER BLOCK
1FB83aUPPER THREE EIGHTHS BLOCKbFIVE EIGHTHS BLOCKbTHREE QUARTERS BLOCK
1FB86aUPPER SEVEN EIGHTHS BLOCKaRIGHT ONE QUARTER BLOCKbTHREE EIGHTHS BLOCK
1FB89aRIGHT FIVE EIGHTHS BLOCKbTHREE QUARTERS BLOCKbSEVEN EIGHTHS BLOCK
1FB8CaLEFT HALF MEDIUM SHADEaRIGHT HALF MEDIUM SHADEaUPPER HALF MEDIUM SHADE
1FB8FaLOWER HALF MEDIUM SHADEaINVERSE MEDIUM SHADE
1FB91aUPPER HALF BLOCK AND LOWER HALF INVERSE MEDIUM SHADE
1FB92aUPPER HALF INVERSE MEDIUM SHADE AND LOWER HALF BLOCK
1FB94aLEFT HALF INVERSE MEDIUM SHADE AND RIGHT HALF BLOCKaCHECKER BOARD FILL
1FB96aINVERSE CHECKER BOARD FILLaHEAVY HORIZONTAL FILL
1FB98aUPPER LEFT TO LOWER RIGHT FILLbRIGHT TO LOWER LEFT FILL
1FB9AaUPPER AND LOWER TRIANGULAR HALF BLOCK
1FB9BaLEFT AND RIGHT TRIANGULAR HALF BLOCKaUPPER LEFT TRIANGULAR MEDIUM SHADE
1FB9DaUPPER RIGHT TRIANGULAR MEDIUM SHADEaLOWER RIGHT TRIANGULAR MEDIUM SHADE
1FB9FaLOWER LEFT TRIANGULAR MEDIUM SHADE
1FBA0aBOX DRAWINGS LIGHT DIAGONAL UPPER CENTRE TO MIDDLE LEFTiRIGHT
1FBA2aBOX DRAWINGS LIGHT DIAGONAL MIDDLE LEFT TO LOWER CENTRE
1FBA3aBOX DRAWINGS LIGHT DIAGONAL MIDDLE RIGHT TO LOWER CENTRE
1FBA4aBOX DRAWINGS LIGHT DIAGONAL UPPER CENTRE TO MIDDLE LEFT TO LOWER CENTRE
1FBA5aBOX DRAWINGS LIGHT DIAGONAL UPPER CENTRE TO MIDDLE RIGHT TO LOWER CENTRE
1FBA6aBOX DRAWINGS LIGHT DIAGONAL MIDDLE LEFT TO LOWER CENTRE TO MIDDLE RIGHT
1FBA7aBOX DRAWINGS LIGHT DIAGONAL MIDDLE LEFT TO UPPER CENTRE TO MIDDLE RIGHT
1FBA8aBOX DRAWINGS LIGHT DIAGONAL UPPER CENTRE TO MIDDLE LEFT AND MIDDLE " ++
"RIGHT TO LOWER CENTRE
1FBA9aBOX DRAWINGS LIGHT DIAGONAL UPPER CENTRE TO MIDDLE RIGHT AND MIDDLE " ++
"LEFT TO LOWER CENTRE
1FBAAaBOX DRAWINGS LIGHT DIAGONAL UPPER CENTRE TO MIDDLE RIGHT TO LOWER " ++
"CENTRE TO MIDDLE LEFT
1FBABaBOX DRAWINGS LIGHT DIAGONAL UPPER CENTRE TO MIDDLE LEFT TO LOWER " ++
"CENTRE TO MIDDLE RIGHT
1FBACaBOX DRAWINGS LIGHT DIAGONAL MIDDLE LEFT TO UPPER CENTRE TO MIDDLE " ++
"RIGHT TO LOWER CENTRE
1FBADaBOX DRAWINGS LIGHT DIAGONAL MIDDLE RIGHT TO UPPER CENTRE TO MIDDLE " ++
"LEFT TO LOWER CENTRE
1FBAEaBOX DRAWINGS LIGHT DIAGONAL DIAMONDdHORIZONTAL WITH VERTICAL STROKE
1FBB0aARROWHEAD-SHAPED POINTERaINVERSE CHECK MARKaLEFT HALF RUNNING MAN
1FBB3aRIGHT HALF RUNNING MANaINVERSE DOWNWARDS ARROW WITH TIP LEFTWARDS
1FBB5aLEFTWARDS ARROW AND UPPER AND LOWER ONE EIGHTH BLOCK
1FBB6aRIGHTWARDS ARROW AND UPPER AND LOWER ONE EIGHTH BLOCK
1FBB7aDOWNWARDS ARROW AND RIGHT ONE EIGHTH BLOCK
1FBB8aUPWARDS ARROW AND RIGHT ONE EIGHTH BLOCKaLEFT HALF FOLDER
1FBBAaRIGHT HALF FOLDERaVOIDED GREEK CROSSaRIGHT OPEN SQUARED DOT
1FBBDaNEGATIVE DIAGONAL CROSScMIDDLE RIGHT TO LOWER CENTREcDIAMOND
1FBC0aWHITE HEAVY SALTIRE WITH ROUNDED CORNERS
1FBC1aLEFT THIRD WHITE RIGHT POINTING INDEX
1FBC2aMIDDLE THIRD WHITE RIGHT POINTING INDEX
1FBC3aRIGHT THIRD WHITE RIGHT POINTING INDEXaNEGATIVE SQUARED QUESTION MARK
1FBC5aSTICK FIGUREc WITH ARMS RAISEDcLEANING LEFTdRIGHTcWITH DRESS
1FBCAaWHITE UP-POINTING CHEVRON
1FBF0aSEGMENTED DIGIT ZEROcONEcTWOcTHREEcFOURcFIVEcSIXcSEVENcEIGHTcNINE
2F800aCJK COMPATIBILITY IDEOGRAPH-2F800d2F801d2F802d2F803d2F804d2F805d2F806
2F807aCJK COMPATIBILITY IDEOGRAPH-2F807d2F808d2F809d2F80Ad2F80Bd2F80Cd2F80D
2F80EaCJK COMPATIBILITY IDEOGRAPH-2F80Ed2F80Fd2F810d2F811d2F812d2F813d2F814
2F815aCJK COMPATIBILITY IDEOGRAPH-2F815d2F816d2F817d2F818d2F819d2F81Ad2F81B
2F81CaCJK COMPATIBILITY IDEOGRAPH-2F81Cd2F81Dd2F81Ed2F81Fd2F820d2F821d2F822
2F823aCJK COMPATIBILITY IDEOGRAPH-2F823d2F824d2F825d2F826d2F827d2F828d2F829
2F82AaCJK COMPATIBILITY IDEOGRAPH-2F82Ad2F82Bd2F82Cd2F82Dd2F82Ed2F82Fd2F830
2F831aCJK COMPATIBILITY IDEOGRAPH-2F831d2F832d2F833d2F834d2F835d2F836d2F837
2F838aCJK COMPATIBILITY IDEOGRAPH-2F838d2F839d2F83Ad2F83Bd2F83Cd2F83Dd2F83E
2F83FaCJK COMPATIBILITY IDEOGRAPH-2F83Fd2F840d2F841d2F842d2F843d2F844d2F845
2F846aCJK COMPATIBILITY IDEOGRAPH-2F846d2F847d2F848d2F849d2F84Ad2F84Bd2F84C
2F84DaCJK COMPATIBILITY IDEOGRAPH-2F84Dd2F84Ed2F84Fd2F850d2F851d2F852d2F853
2F854aCJK COMPATIBILITY IDEOGRAPH-2F854d2F855d2F856d2F857d2F858d2F859d2F85A
2F85BaCJK COMPATIBILITY IDEOGRAPH-2F85Bd2F85Cd2F85Dd2F85Ed2F85Fd2F860d2F861
2F862aCJK COMPATIBILITY IDEOGRAPH-2F862d2F863d2F864d2F865d2F866d2F867d2F868
2F869aCJK COMPATIBILITY IDEOGRAPH-2F869d2F86Ad2F86Bd2F86Cd2F86Dd2F86Ed2F86F
2F870aCJK COMPATIBILITY IDEOGRAPH-2F870d2F871d2F872d2F873d2F874d2F875d2F876
2F877aCJK COMPATIBILITY IDEOGRAPH-2F877d2F878d2F879d2F87Ad2F87Bd2F87Cd2F87D
2F87EaCJK COMPATIBILITY IDEOGRAPH-2F87Ed2F87Fd2F880d2F881d2F882d2F883d2F884
2F885aCJK COMPATIBILITY IDEOGRAPH-2F885d2F886d2F887d2F888d2F889d2F88Ad2F88B
2F88CaCJK COMPATIBILITY IDEOGRAPH-2F88Cd2F88Dd2F88Ed2F88Fd2F890d2F891d2F892
2F893aCJK COMPATIBILITY IDEOGRAPH-2F893d2F894d2F895d2F896d2F897d2F898d2F899
2F89AaCJK COMPATIBILITY IDEOGRAPH-2F89Ad2F89Bd2F89Cd2F89Dd2F89Ed2F89Fd2F8A0
2F8A1aCJK COMPATIBILITY IDEOGRAPH-2F8A1d2F8A2d2F8A3d2F8A4d2F8A5d2F8A6d2F8A7
2F8A8aCJK COMPATIBILITY IDEOGRAPH-2F8A8d2F8A9d2F8AAd2F8ABd2F8ACd2F8ADd2F8AE
2F8AFaCJK COMPATIBILITY IDEOGRAPH-2F8AFd2F8B0d2F8B1d2F8B2d2F8B3d2F8B4d2F8B5
2F8B6aCJK COMPATIBILITY IDEOGRAPH-2F8B6d2F8B7d2F8B8d2F8B9d2F8BAd2F8BBd2F8BC
2F8BDaCJK COMPATIBILITY IDEOGRAPH-2F8BDd2F8BEd2F8BFd2F8C0d2F8C1d2F8C2d2F8C3
2F8C4aCJK COMPATIBILITY IDEOGRAPH-2F8C4d2F8C5d2F8C6d2F8C7d2F8C8d2F8C9d2F8CA
2F8CBaCJK COMPATIBILITY IDEOGRAPH-2F8CBd2F8CCd2F8CDd2F8CEd2F8CFd2F8D0d2F8D1
2F8D2aCJK COMPATIBILITY IDEOGRAPH-2F8D2d2F8D3d2F8D4d2F8D5d2F8D6d2F8D7d2F8D8
2F8D9aCJK COMPATIBILITY IDEOGRAPH-2F8D9d2F8DAd2F8DBd2F8DCd2F8DDd2F8DEd2F8DF
2F8E0aCJK COMPATIBILITY IDEOGRAPH-2F8E0d2F8E1d2F8E2d2F8E3d2F8E4d2F8E5d2F8E6
2F8E7aCJK COMPATIBILITY IDEOGRAPH-2F8E7d2F8E8d2F8E9d2F8EAd2F8EBd2F8ECd2F8ED
2F8EEaCJK COMPATIBILITY IDEOGRAPH-2F8EEd2F8EFd2F8F0d2F8F1d2F8F2d2F8F3d2F8F4
2F8F5aCJK COMPATIBILITY IDEOGRAPH-2F8F5d2F8F6d2F8F7d2F8F8d2F8F9d2F8FAd2F8FB
2F8FCaCJK COMPATIBILITY IDEOGRAPH-2F8FCd2F8FDd2F8FEd2F8FFd2F900d2F901d2F902
2F903aCJK COMPATIBILITY IDEOGRAPH-2F903d2F904d2F905d2F906d2F907d2F908d2F909
2F90AaCJK COMPATIBILITY IDEOGRAPH-2F90Ad2F90Bd2F90Cd2F90Dd2F90Ed2F90Fd2F910
2F911aCJK COMPATIBILITY IDEOGRAPH-2F911d2F912d2F913d2F914d2F915d2F916d2F917
2F918aCJK COMPATIBILITY IDEOGRAPH-2F918d2F919d2F91Ad2F91Bd2F91Cd2F91Dd2F91E
2F91FaCJK COMPATIBILITY IDEOGRAPH-2F91Fd2F920d2F921d2F922d2F923d2F924d2F925
2F926aCJK COMPATIBILITY IDEOGRAPH-2F926d2F927d2F928d2F929d2F92Ad2F92Bd2F92C
2F92DaCJK COMPATIBILITY IDEOGRAPH-2F92Dd2F92Ed2F92Fd2F930d2F931d2F932d2F933
2F934aCJK COMPATIBILITY IDEOGRAPH-2F934d2F935d2F936d2F937d2F938d2F939d2F93A
2F93BaCJK COMPATIBILITY IDEOGRAPH-2F93Bd2F93Cd2F93Dd2F93Ed2F93Fd2F940d2F941
2F942aCJK COMPATIBILITY IDEOGRAPH-2F942d2F943d2F944d2F945d2F946d2F947d2F948
2F949aCJK COMPATIBILITY IDEOGRAPH-2F949d2F94Ad2F94Bd2F94Cd2F94Dd2F94Ed2F94F
2F950aCJK COMPATIBILITY IDEOGRAPH-2F950d2F951d2F952d2F953d2F954d2F955d2F956
2F957aCJK COMPATIBILITY IDEOGRAPH-2F957d2F958d2F959d2F95Ad2F95Bd2F95Cd2F95D
2F95EaCJK COMPATIBILITY IDEOGRAPH-2F95Ed2F95Fd2F960d2F961d2F962d2F963d2F964
2F965aCJK COMPATIBILITY IDEOGRAPH-2F965d2F966d2F967d2F968d2F969d2F96Ad2F96B
2F96CaCJK COMPATIBILITY IDEOGRAPH-2F96Cd2F96Dd2F96Ed2F96Fd2F970d2F971d2F972
2F973aCJK COMPATIBILITY IDEOGRAPH-2F973d2F974d2F975d2F976d2F977d2F978d2F979
2F97AaCJK COMPATIBILITY IDEOGRAPH-2F97Ad2F97Bd2F97Cd2F97Dd2F97Ed2F97Fd2F980
2F981aCJK COMPATIBILITY IDEOGRAPH-2F981d2F982d2F983d2F984d2F985d2F986d2F987
2F988aCJK COMPATIBILITY IDEOGRAPH-2F988d2F989d2F98Ad2F98Bd2F98Cd2F98Dd2F98E
2F98FaCJK COMPATIBILITY IDEOGRAPH-2F98Fd2F990d2F991d2F992d2F993d2F994d2F995
2F996aCJK COMPATIBILITY IDEOGRAPH-2F996d2F997d2F998d2F999d2F99Ad2F99Bd2F99C
2F99DaCJK COMPATIBILITY IDEOGRAPH-2F99Dd2F99Ed2F99Fd2F9A0d2F9A1d2F9A2d2F9A3
2F9A4aCJK COMPATIBILITY IDEOGRAPH-2F9A4d2F9A5d2F9A6d2F9A7d2F9A8d2F9A9d2F9AA
2F9ABaCJK COMPATIBILITY IDEOGRAPH-2F9ABd2F9ACd2F9ADd2F9AEd2F9AFd2F9B0d2F9B1
2F9B2aCJK COMPATIBILITY IDEOGRAPH-2F9B2d2F9B3d2F9B4d2F9B5d2F9B6d2F9B7d2F9B8
2F9B9aCJK COMPATIBILITY IDEOGRAPH-2F9B9d2F9BAd2F9BBd2F9BCd2F9BDd2F9BEd2F9BF
2F9C0aCJK COMPATIBILITY IDEOGRAPH-2F9C0d2F9C1d2F9C2d2F9C3d2F9C4d2F9C5d2F9C6
2F9C7aCJK COMPATIBILITY IDEOGRAPH-2F9C7d2F9C8d2F9C9d2F9CAd2F9CBd2F9CCd2F9CD
2F9CEaCJK COMPATIBILITY IDEOGRAPH-2F9CEd2F9CFd2F9D0d2F9D1d2F9D2d2F9D3d2F9D4
2F9D5aCJK COMPATIBILITY IDEOGRAPH-2F9D5d2F9D6d2F9D7d2F9D8d2F9D9d2F9DAd2F9DB
2F9DCaCJK COMPATIBILITY IDEOGRAPH-2F9DCd2F9DDd2F9DEd2F9DFd2F9E0d2F9E1d2F9E2
2F9E3aCJK COMPATIBILITY IDEOGRAPH-2F9E3d2F9E4d2F9E5d2F9E6d2F9E7d2F9E8d2F9E9
2F9EAaCJK COMPATIBILITY IDEOGRAPH-2F9EAd2F9EBd2F9ECd2F9EDd2F9EEd2F9EFd2F9F0
2F9F1aCJK COMPATIBILITY IDEOGRAPH-2F9F1d2F9F2d2F9F3d2F9F4d2F9F5d2F9F6d2F9F7
2F9F8aCJK COMPATIBILITY IDEOGRAPH-2F9F8d2F9F9d2F9FAd2F9FBd2F9FCd2F9FDd2F9FE
2F9FFaCJK COMPATIBILITY IDEOGRAPH-2F9FFd2FA00d2FA01d2FA02d2FA03d2FA04d2FA05
2FA06aCJK COMPATIBILITY IDEOGRAPH-2FA06d2FA07d2FA08d2FA09d2FA0Ad2FA0Bd2FA0C
2FA0DaCJK COMPATIBILITY IDEOGRAPH-2FA0Dd2FA0Ed2FA0Fd2FA10d2FA11d2FA12d2FA13
2FA14aCJK COMPATIBILITY IDEOGRAPH-2FA14d2FA15d2FA16d2FA17d2FA18d2FA19d2FA1A
2FA1BaCJK COMPATIBILITY IDEOGRAPH-2FA1Bd2FA1Cd2FA1D
E0001aLANGUAGE TAG
E0020aTAG SPACEbEXCLAMATION MARKbQUOTATION MARKbNUMBER SIGNbDOLLAR SIGN
E0025aTAG PERCENT SIGNbAMPERSANDbAPOSTROPHEbLEFT PARENTHESISbRIGHT PARENTHESIS
E002AaTAG ASTERISKbPLUS SIGNbCOMMAbHYPHEN-MINUSbFULL STOPbSOLIDUSbDIGIT ZERO
E0031aTAG DIGIT ONEcTWOcTHREEcFOURcFIVEcSIXcSEVENcEIGHTcNINEbCOLONbSEMICOLON
E003CaTAG LESS-THAN SIGNbEQUALS SIGNbGREATER-THAN SIGNbQUESTION MARK
E0040aTAG COMMERCIAL ATbLATIN CAPITAL LETTER AeBeCeDeEeFeGeHeIeJeKeLeMeNeOePeQ
E0052aTAG LATIN CAPITAL LETTER ReSeTeUeVeWeXeYeZbLEFT SQUARE BRACKET
E005CaTAG REVERSE SOLIDUSbRIGHT SQUARE BRACKETbCIRCUMFLEX ACCENTbLOW LINE
E0060aTAG GRAVE ACCENTbLATIN SMALL LETTER AeBeCeDeEeFeGeHeIeJeKeLeMeNeOePeQeR
E0073aTAG LATIN SMALL LETTER SeTeUeVeWeXeYeZbLEFT CURLY BRACKETbVERTICAL LINE
E007DaTAG RIGHT CURLY BRACKETbTILDEaCANCEL TAG
E0100aVARIATION SELECTOR-17c18c19c20c21c22c23c24c25c26c27c28c29c30c31c32c33c34
E0112aVARIATION SELECTOR-35c36c37c38c39c40c41c42c43c44c45c46c47c48c49c50c51c52
E0124aVARIATION SELECTOR-53c54c55c56c57c58c59c60c61c62c63c64c65c66c67c68c69c70
E0136aVARIATION SELECTOR-71c72c73c74c75c76c77c78c79c80c81c82c83c84c85c86c87c88
E0148aVARIATION SELECTOR-89c90c91c92c93c94c95c96c97c98c99c100c101c102c103c104
E0158aVARIATION SELECTOR-105c106c107c108c109c110c111c112c113c114c115c116c117
E0165aVARIATION SELECTOR-118c119c120c121c122c123c124c125c126c127c128c129c130
E0172aVARIATION SELECTOR-131c132c133c134c135c136c137c138c139c140c141c142c143
E017FaVARIATION SELECTOR-144c145c146c147c148c149c150c151c152c153c154c155c156
E018CaVARIATION SELECTOR-157c158c159c160c161c162c163c164c165c166c167c168c169
E0199aVARIATION SELECTOR-170c171c172c173c174c175c176c177c178c179c180c181c182
E01A6aVARIATION SELECTOR-183c184c185c186c187c188c189c190c191c192c193c194c195
E01B3aVARIATION SELECTOR-196c197c198c199c200c201c202c203c204c205c206c207c208
E01C0aVARIATION SELECTOR-209c210c211c212c213c214c215c216c217c218c219c220c221
E01CDaVARIATION SELECTOR-222c223c224c225c226c227c228c229c230c231c232c233c234
E01DAaVARIATION SELECTOR-235c236c237c238c239c240c241c242c243c244c245c246c247
E01E7aVARIATION SELECTOR-248c249c250c251c252c253c254c255c256"

end Purity.Text.CharName
