/-
Names of the characters with code points from 2000 to FFFF, in hexadecimal, by
version 14.0 of the character database. Ideographs and Hangul syllables
are left out: their names follow a rule. Consumed by `CharName.lean`, which
says how a line is read.
-/
namespace Purity.Text.CharName

/-- The names, line by line. -/
def middleText : String := "
2000aEN QUADaEM QUADaEN SPACEaEM SPACEaTHREE-PER-EM SPACEaFOUR-PER-EM SPACE
2006aSIX-PER-EM SPACEaFIGURE SPACEaPUNCTUATION SPACEaTHIN SPACEaHAIR SPACE
200BaZERO WIDTH SPACEcNON-JOINERcJOINERaLEFT-TO-RIGHT MARKaRIGHT-TO-LEFT MARK
2010aHYPHENaNON-BREAKING HYPHENaFIGURE DASHaEN DASHaEM DASHaHORIZONTAL BAR
2016aDOUBLE VERTICAL LINEbLOW LINEaLEFT SINGLE QUOTATION MARK
2019aRIGHT SINGLE QUOTATION MARKaSINGLE LOW-9 QUOTATION MARK
201BaSINGLE HIGH-REVERSED-9 QUOTATION MARKaLEFT DOUBLE QUOTATION MARK
201DaRIGHT DOUBLE QUOTATION MARKaDOUBLE LOW-9 QUOTATION MARK
201FaDOUBLE HIGH-REVERSED-9 QUOTATION MARKaDAGGERaDOUBLE DAGGERaBULLET
2023aTRIANGULAR BULLETaONE DOT LEADERaTWO DOT LEADERaHORIZONTAL ELLIPSIS
2027aHYPHENATION POINTaLINE SEPARATORaPARAGRAPH SEPARATOR
202AaLEFT-TO-RIGHT EMBEDDINGaRIGHT-TO-LEFT EMBEDDING
202CaPOP DIRECTIONAL FORMATTINGaLEFT-TO-RIGHT OVERRIDEaRIGHT-TO-LEFT OVERRIDE
202FaNARROW NO-BREAK SPACEaPER MILLE SIGNbTEN THOUSAND SIGNaPRIMEaDOUBLE PRIME
2034aTRIPLE PRIMEaREVERSED PRIMEbDOUBLE PRIMEbTRIPLE PRIMEaCARET
2039aSINGLE LEFT-POINTING ANGLE QUOTATION MARK
203AaSINGLE RIGHT-POINTING ANGLE QUOTATION MARKaREFERENCE MARK
203CaDOUBLE EXCLAMATION MARKaINTERROBANGaOVERLINEaUNDERTIEaCHARACTER TIE
2041aCARET INSERTION POINTaASTERISMaHYPHEN BULLETaFRACTION SLASH
2045aLEFT SQUARE BRACKET WITH QUILLaRIGHT SQUARE BRACKET WITH QUILL
2047aDOUBLE QUESTION MARKaQUESTION EXCLAMATION MARKaEXCLAMATION QUESTION MARK
204AaTIRONIAN SIGN ETaREVERSED PILCROW SIGNaBLACK LEFTWARDS BULLET
204DaBLACK RIGHTWARDS BULLETaLOW ASTERISKaREVERSED SEMICOLONaCLOSE UP
2051aTWO ASTERISKS ALIGNED VERTICALLYaCOMMERCIAL MINUS SIGNaSWUNG DASH
2054aINVERTED UNDERTIEaFLOWER PUNCTUATION MARKaTHREE DOT PUNCTUATION
2057aQUADRUPLE PRIMEaFOUR DOT PUNCTUATIONaFIVE DOT PUNCTUATION
205AaTWO DOT PUNCTUATIONaFOUR DOT MARKaDOTTED CROSSaTRICOLON
205EaVERTICAL FOUR DOTSaMEDIUM MATHEMATICAL SPACEaWORD JOINER
2061aFUNCTION APPLICATIONaINVISIBLE TIMESbSEPARATORbPLUS
2066aLEFT-TO-RIGHT ISOLATEaRIGHT-TO-LEFT ISOLATEaFIRST STRONG ISOLATE
2069aPOP DIRECTIONAL ISOLATEaINHIBIT SYMMETRIC SWAPPING
206BaACTIVATE SYMMETRIC SWAPPINGaINHIBIT ARABIC FORM SHAPING
206DaACTIVATE ARABIC FORM SHAPINGaNATIONAL DIGIT SHAPESaNOMINAL DIGIT SHAPES
2070aSUPERSCRIPT ZERObLATIN SMALL LETTER I
2074aSUPERSCRIPT FOURbFIVEbSIXbSEVENbEIGHTbNINEbPLUS SIGNbMINUSbEQUALS SIGN
207DaSUPERSCRIPT LEFT PARENTHESISbRIGHT PARENTHESISbLATIN SMALL LETTER N
2080aSUBSCRIPT ZERObONEbTWObTHREEbFOURbFIVEbSIXbSEVENbEIGHTbNINEbPLUS SIGN
208BaSUBSCRIPT MINUSbEQUALS SIGNbLEFT PARENTHESISbRIGHT PARENTHESIS
2090aLATIN SUBSCRIPT SMALL LETTER AeEeOeXeSCHWAeHeKeLeMeNePeSeT
20A0aEURO-CURRENCY SIGNaCOLON SIGNaCRUZEIRO SIGNaFRENCH FRANC SIGNaLIRA SIGN
20A5aMILL SIGNaNAIRA SIGNaPESETA SIGNaRUPEE SIGNaWON SIGNaNEW SHEQEL SIGN
20ABaDONG SIGNaEURO SIGNaKIP SIGNaTUGRIK SIGNaDRACHMA SIGNaGERMAN PENNY SIGN
20B1aPESO SIGNaGUARANI SIGNaAUSTRAL SIGNaHRYVNIA SIGNaCEDI SIGN
20B6aLIVRE TOURNOIS SIGNaSPESMILO SIGNaTENGE SIGNaINDIAN RUPEE SIGN
20BAaTURKISH LIRA SIGNaNORDIC MARK SIGNaMANAT SIGNaRUBLE SIGNaLARI SIGN
20BFaBITCOIN SIGNaSOM SIGN
20D0aCOMBINING LEFT HARPOON ABOVEbRIGHT HARPOON ABOVE
20D2aCOMBINING LONG VERTICAL LINE OVERLAYbSHORT VERTICAL LINE OVERLAY
20D4aCOMBINING ANTICLOCKWISE ARROW ABOVEbCLOCKWISE ARROW ABOVE
20D6aCOMBINING LEFT ARROW ABOVEbRIGHT ARROW ABOVEbRING OVERLAY
20D9aCOMBINING CLOCKWISE RING OVERLAYbANTICLOCKWISE RING OVERLAY
20DBaCOMBINING THREE DOTS ABOVEbFOUR DOTS ABOVEbENCLOSING CIRCLEcSQUARE
20DFaCOMBINING ENCLOSING DIAMONDcCIRCLE BACKSLASHbLEFT RIGHT ARROW ABOVE
20E2aCOMBINING ENCLOSING SCREENcKEYCAPcUPWARD POINTING TRIANGLE
20E5aCOMBINING REVERSE SOLIDUS OVERLAYbDOUBLE VERTICAL STROKE OVERLAY
20E7aCOMBINING ANNUITY SYMBOLbTRIPLE UNDERDOTbWIDE BRIDGE ABOVE
20EAaCOMBINING LEFTWARDS ARROW OVERLAYbLONG DOUBLE SOLIDUS OVERLAY
20ECaCOMBINING RIGHTWARDS HARPOON WITH BARB DOWNWARDS
20EDaCOMBINING LEFTWARDS HARPOON WITH BARB DOWNWARDSbLEFT ARROW BELOW
20EFaCOMBINING RIGHT ARROW BELOWbASTERISK ABOVE
2100aACCOUNT OFaADDRESSED TO THE SUBJECTaDOUBLE-STRUCK CAPITAL C
2103aDEGREE CELSIUSaCENTRE LINE SYMBOLaCARE OFaCADA UNAaEULER CONSTANTaSCRUPLE
2109aDEGREE FAHRENHEITaSCRIPT SMALL GbCAPITAL HaBLACK-LETTER CAPITAL H
210DaDOUBLE-STRUCK CAPITAL HaPLANCK CONSTANTc OVER TWO PIaSCRIPT CAPITAL I
2111aBLACK-LETTER CAPITAL IaSCRIPT CAPITAL LbSMALL LaL B BAR SYMBOL
2115aDOUBLE-STRUCK CAPITAL NaNUMERO SIGNaSOUND RECORDING COPYRIGHT
2118aSCRIPT CAPITAL PaDOUBLE-STRUCK CAPITAL PdQaSCRIPT CAPITAL R
211CaBLACK-LETTER CAPITAL RaDOUBLE-STRUCK CAPITAL RaPRESCRIPTION TAKEaRESPONSE
2120aSERVICE MARKaTELEPHONE SIGNaTRADE MARK SIGNaVERSICLE
2124aDOUBLE-STRUCK CAPITAL ZaOUNCE SIGNaOHM SIGNaINVERTED OHM SIGN
2128aBLACK-LETTER CAPITAL ZaTURNED GREEK SMALL LETTER IOTAaKELVIN SIGN
212BaANGSTROM SIGNaSCRIPT CAPITAL BaBLACK-LETTER CAPITAL CaESTIMATED SYMBOL
212FaSCRIPT SMALL EbCAPITAL EcFaTURNED CAPITAL FaSCRIPT CAPITAL MbSMALL O
2135aALEF SYMBOLaBET SYMBOLaGIMEL SYMBOLaDALET SYMBOLaINFORMATION SOURCE
213AaROTATED CAPITAL QaFACSIMILE SIGNaDOUBLE-STRUCK SMALL PIdGAMMA
213EaDOUBLE-STRUCK CAPITAL GAMMAdPIcN-ARY SUMMATION
2141aTURNED SANS-SERIF CAPITAL GeLaREVERSED SANS-SERIF CAPITAL L
2144aTURNED SANS-SERIF CAPITAL YaDOUBLE-STRUCK ITALIC CAPITAL DdSMALL DeEeIeJ
214AaPROPERTY LINEaTURNED AMPERSANDaPER SIGNaAKTIESELSKABaTURNED SMALL F
214FaSYMBOL FOR SAMARITAN SOURCEaVULGAR FRACTION ONE SEVENTHdNINTHdTENTHdTHIRD
2154aVULGAR FRACTION TWO THIRDScONE FIFTHcTWO FIFTHScTHREE FIFTHScFOUR FIFTHS
2159aVULGAR FRACTION ONE SIXTHcFIVE SIXTHScONE EIGHTHcTHREE EIGHTHS
215DaVULGAR FRACTION FIVE EIGHTHScSEVEN EIGHTHSaFRACTION NUMERATOR ONE
2160aROMAN NUMERAL ONEcTWOcTHREEcFOURcFIVEcSIXcSEVENcEIGHTcNINEcTENcELEVEN
216BaROMAN NUMERAL TWELVEcFIFTYcONE HUNDREDcFIVE HUNDREDcONE THOUSAND
2170aSMALL ROMAN NUMERAL ONEdTWOdTHREEdFOURdFIVEdSIXdSEVENdEIGHTdNINEdTEN
217AaSMALL ROMAN NUMERAL ELEVENdTWELVEdFIFTYdONE HUNDREDdFIVE HUNDRED
217FaSMALL ROMAN NUMERAL ONE THOUSANDaROMAN NUMERAL ONE THOUSAND C D
2181aROMAN NUMERAL FIVE THOUSANDcTEN THOUSANDcREVERSED ONE HUNDRED
2184aLATIN SMALL LETTER REVERSED CaROMAN NUMERAL SIX LATE FORM
2186aROMAN NUMERAL FIFTY EARLY FORMdTHOUSANDcONE HUNDRED THOUSAND
2189aVULGAR FRACTION ZERO THIRDSaTURNED DIGIT TWOcTHREE
2190aLEFTWARDS ARROWaUPWARDS ARROWaRIGHTWARDS ARROWaDOWNWARDS ARROW
2194aLEFT RIGHT ARROWaUP DOWN ARROWaNORTH WEST ARROWbEAST ARROW
2198aSOUTH EAST ARROWbWEST ARROWaLEFTWARDS ARROW WITH STROKE
219BaRIGHTWARDS ARROW WITH STROKEaLEFTWARDS WAVE ARROWaRIGHTWARDS WAVE ARROW
219EaLEFTWARDS TWO HEADED ARROWaUPWARDS TWO HEADED ARROW
21A0aRIGHTWARDS TWO HEADED ARROWaDOWNWARDS TWO HEADED ARROW
21A2aLEFTWARDS ARROW WITH TAILaRIGHTWARDS ARROW WITH TAIL
21A4aLEFTWARDS ARROW FROM BARaUPWARDS ARROW FROM BARaRIGHTWARDS ARROW FROM BAR
21A7aDOWNWARDS ARROW FROM BARaUP DOWN ARROW WITH BASE
21A9aLEFTWARDS ARROW WITH HOOKaRIGHTWARDS ARROW WITH HOOK
21ABaLEFTWARDS ARROW WITH LOOPaRIGHTWARDS ARROW WITH LOOP
21ADaLEFT RIGHT WAVE ARROWcARROW WITH STROKEaDOWNWARDS ZIGZAG ARROW
21B0aUPWARDS ARROW WITH TIP LEFTWARDSeRIGHTWARDS
21B2aDOWNWARDS ARROW WITH TIP LEFTWARDSeRIGHTWARDS
21B4aRIGHTWARDS ARROW WITH CORNER DOWNWARDS
21B5aDOWNWARDS ARROW WITH CORNER LEFTWARDSaANTICLOCKWISE TOP SEMICIRCLE ARROW
21B7aCLOCKWISE TOP SEMICIRCLE ARROWaNORTH WEST ARROW TO LONG BAR
21B9aLEFTWARDS ARROW TO BAR OVER RIGHTWARDS ARROW TO BAR
21BAaANTICLOCKWISE OPEN CIRCLE ARROWaCLOCKWISE OPEN CIRCLE ARROW
21BCaLEFTWARDS HARPOON WITH BARB UPWARDSeDOWNWARDS
21BEaUPWARDS HARPOON WITH BARB RIGHTWARDSeLEFTWARDS
21C0aRIGHTWARDS HARPOON WITH BARB UPWARDSeDOWNWARDS
21C2aDOWNWARDS HARPOON WITH BARB RIGHTWARDSeLEFTWARDS
21C4aRIGHTWARDS ARROW OVER LEFTWARDS ARROW
21C5aUPWARDS ARROW LEFTWARDS OF DOWNWARDS ARROW
21C6aLEFTWARDS ARROW OVER RIGHTWARDS ARROWbPAIRED ARROWSaUPWARDS PAIRED ARROWS
21C9aRIGHTWARDS PAIRED ARROWSaDOWNWARDS PAIRED ARROWS
21CBaLEFTWARDS HARPOON OVER RIGHTWARDS HARPOON
21CCaRIGHTWARDS HARPOON OVER LEFTWARDS HARPOON
21CDaLEFTWARDS DOUBLE ARROW WITH STROKEaLEFT RIGHT DOUBLE ARROW WITH STROKE
21CFaRIGHTWARDS DOUBLE ARROW WITH STROKEaLEFTWARDS DOUBLE ARROW
21D1aUPWARDS DOUBLE ARROWaRIGHTWARDS DOUBLE ARROWaDOWNWARDS DOUBLE ARROW
21D4aLEFT RIGHT DOUBLE ARROWaUP DOWN DOUBLE ARROWaNORTH WEST DOUBLE ARROW
21D7aNORTH EAST DOUBLE ARROWaSOUTH EAST DOUBLE ARROWbWEST DOUBLE ARROW
21DAaLEFTWARDS TRIPLE ARROWaRIGHTWARDS TRIPLE ARROWaLEFTWARDS SQUIGGLE ARROW
21DDaRIGHTWARDS SQUIGGLE ARROWaUPWARDS ARROW WITH DOUBLE STROKE
21DFaDOWNWARDS ARROW WITH DOUBLE STROKEaLEFTWARDS DASHED ARROW
21E1aUPWARDS DASHED ARROWaRIGHTWARDS DASHED ARROWaDOWNWARDS DASHED ARROW
21E4aLEFTWARDS ARROW TO BARaRIGHTWARDS ARROW TO BARaLEFTWARDS WHITE ARROW
21E7aUPWARDS WHITE ARROWaRIGHTWARDS WHITE ARROWaDOWNWARDS WHITE ARROW
21EAaUPWARDS WHITE ARROW FROM BARdON PEDESTALf WITH HORIZONTAL BAR
21EDaUPWARDS WHITE ARROW ON PEDESTAL WITH VERTICAL BARcDOUBLE ARROW
21EFaUPWARDS WHITE DOUBLE ARROW ON PEDESTALaRIGHTWARDS WHITE ARROW FROM WALL
21F1aNORTH WEST ARROW TO CORNERaSOUTH EAST ARROW TO CORNERaUP DOWN WHITE ARROW
21F4aRIGHT ARROW WITH SMALL CIRCLEaDOWNWARDS ARROW LEFTWARDS OF UPWARDS ARROW
21F6aTHREE RIGHTWARDS ARROWSaLEFTWARDS ARROW WITH VERTICAL STROKE
21F8aRIGHTWARDS ARROW WITH VERTICAL STROKE
21F9aLEFT RIGHT ARROW WITH VERTICAL STROKE
21FAaLEFTWARDS ARROW WITH DOUBLE VERTICAL STROKE
21FBaRIGHTWARDS ARROW WITH DOUBLE VERTICAL STROKE
21FCaLEFT RIGHT ARROW WITH DOUBLE VERTICAL STROKEaLEFTWARDS OPEN-HEADED ARROW
21FEaRIGHTWARDS OPEN-HEADED ARROWaLEFT RIGHT OPEN-HEADED ARROWaFOR ALL
2201aCOMPLEMENTaPARTIAL DIFFERENTIALaTHERE EXISTSbDOES NOT EXISTaEMPTY SET
2206aINCREMENTaNABLAaELEMENT OFaNOT AN ELEMENT OFaSMALL ELEMENT OF
220BaCONTAINS AS MEMBERaDOES NOT CONTAIN AS MEMBERaSMALL CONTAINS AS MEMBER
220EaEND OF PROOFaN-ARY PRODUCTcCOPRODUCTcSUMMATIONaMINUS SIGN
2213aMINUS-OR-PLUS SIGNaDOT PLUSaDIVISION SLASHaSET MINUSaASTERISK OPERATOR
2218aRING OPERATORaBULLET OPERATORaSQUARE ROOTaCUBE ROOTaFOURTH ROOT
221DaPROPORTIONAL TOaINFINITYaRIGHT ANGLEaANGLEaMEASURED ANGLEaSPHERICAL ANGLE
2223aDIVIDESaDOES NOT DIVIDEaPARALLEL TOaNOT PARALLEL TOaLOGICAL ANDbOR
2229aINTERSECTIONaUNIONaINTEGRALaDOUBLE INTEGRALaTRIPLE INTEGRAL
222EaCONTOUR INTEGRALaSURFACE INTEGRALaVOLUME INTEGRALaCLOCKWISE INTEGRAL
2232aCLOCKWISE CONTOUR INTEGRALaANTICLOCKWISE CONTOUR INTEGRALaTHEREFORE
2235aBECAUSEaRATIOaPROPORTIONaDOT MINUSaEXCESSaGEOMETRIC PROPORTIONaHOMOTHETIC
223CaTILDE OPERATORaREVERSED TILDEaINVERTED LAZY SaSINE WAVEaWREATH PRODUCT
2241aNOT TILDEaMINUS TILDEaASYMPTOTICALLY EQUAL TOaNOT ASYMPTOTICALLY EQUAL TO
2245aAPPROXIMATELY EQUAL TObBUT NOT ACTUALLY EQUAL TO
2247aNEITHER APPROXIMATELY NOR ACTUALLY EQUAL TOaALMOST EQUAL TO
2249aNOT ALMOST EQUAL TOaALMOST EQUAL OR EQUAL TOaTRIPLE TILDEaALL EQUAL TO
224DaEQUIVALENT TOaGEOMETRICALLY EQUIVALENT TOaDIFFERENCE BETWEEN
2250aAPPROACHES THE LIMITaGEOMETRICALLY EQUAL TO
2252aAPPROXIMATELY EQUAL TO OR THE IMAGE OFaIMAGE OF OR APPROXIMATELY EQUAL TO
2254aCOLON EQUALSaEQUALS COLONaRING IN EQUAL TObEQUAL TOaCORRESPONDS TO
2259aESTIMATESaEQUIANGULAR TOaSTAR EQUALSaDELTA EQUAL TO
225DaEQUAL TO BY DEFINITIONaMEASURED BYaQUESTIONED EQUAL TOaNOT EQUAL TO
2261aIDENTICAL TOaNOT IDENTICAL TOaSTRICTLY EQUIVALENT TO
2264aLESS-THAN OR EQUAL TOaGREATER-THAN OR EQUAL TOaLESS-THAN OVER EQUAL TO
2267aGREATER-THAN OVER EQUAL TOaLESS-THAN BUT NOT EQUAL TO
2269aGREATER-THAN BUT NOT EQUAL TOaMUCH LESS-THANbGREATER-THANaBETWEEN
226DaNOT EQUIVALENT TObLESS-THANbGREATER-THANaNEITHER LESS-THAN NOR EQUAL TO
2271aNEITHER GREATER-THAN NOR EQUAL TOaLESS-THAN OR EQUIVALENT TO
2273aGREATER-THAN OR EQUIVALENT TOaNEITHER LESS-THAN NOR EQUIVALENT TO
2275aNEITHER GREATER-THAN NOR EQUIVALENT TOaLESS-THAN OR GREATER-THAN
2277aGREATER-THAN OR LESS-THANaNEITHER LESS-THAN NOR GREATER-THAN
2279aNEITHER GREATER-THAN NOR LESS-THANaPRECEDESaSUCCEEDSaPRECEDES OR EQUAL TO
227DaSUCCEEDS OR EQUAL TOaPRECEDES OR EQUIVALENT TOaSUCCEEDS OR EQUIVALENT TO
2280aDOES NOT PRECEDEcSUCCEEDaSUBSET OFaSUPERSET OFaNOT A SUBSET OF
2285aNOT A SUPERSET OFaSUBSET OF OR EQUAL TOaSUPERSET OF OR EQUAL TO
2288aNEITHER A SUBSET OF NOR EQUAL TOcSUPERSET OF NOR EQUAL TO
228AaSUBSET OF WITH NOT EQUAL TOaSUPERSET OF WITH NOT EQUAL TOaMULTISET
228DaMULTISET MULTIPLICATIONbUNIONaSQUARE IMAGE OFbORIGINAL OF
2291aSQUARE IMAGE OF OR EQUAL TObORIGINAL OF OR EQUAL TObCAPbCUPaCIRCLED PLUS
2296aCIRCLED MINUSbTIMESbDIVISION SLASHbDOT OPERATORbRING OPERATOR
229BaCIRCLED ASTERISK OPERATORbEQUALSbDASHaSQUARED PLUSbMINUSbTIMES
22A1aSQUARED DOT OPERATORaRIGHT TACKaLEFT TACKaDOWN TACKaUP TACKaASSERTION
22A7aMODELSaTRUEaFORCESaTRIPLE VERTICAL BAR RIGHT TURNSTILE
22ABaDOUBLE VERTICAL BAR DOUBLE RIGHT TURNSTILEaDOES NOT PROVEaNOT TRUE
22AEaDOES NOT FORCEaNEGATED DOUBLE VERTICAL BAR DOUBLE RIGHT TURNSTILE
22B0aPRECEDES UNDER RELATIONaSUCCEEDS UNDER RELATIONaNORMAL SUBGROUP OF
22B3aCONTAINS AS NORMAL SUBGROUPaNORMAL SUBGROUP OF OR EQUAL TO
22B5aCONTAINS AS NORMAL SUBGROUP OR EQUAL TOaORIGINAL OFaIMAGE OFaMULTIMAP
22B9aHERMITIAN CONJUGATE MATRIXaINTERCALATEaXORaNANDaNORaRIGHT ANGLE WITH ARC
22BFaRIGHT TRIANGLEaN-ARY LOGICAL ANDdORcINTERSECTIONcUNIONaDIAMOND OPERATOR
22C5aDOT OPERATORaSTAR OPERATORaDIVISION TIMESaBOWTIE
22C9aLEFT NORMAL FACTOR SEMIDIRECT PRODUCT
22CAaRIGHT NORMAL FACTOR SEMIDIRECT PRODUCTaLEFT SEMIDIRECT PRODUCT
22CCaRIGHT SEMIDIRECT PRODUCTaREVERSED TILDE EQUALSaCURLY LOGICAL ORcAND
22D0aDOUBLE SUBSETbSUPERSETbINTERSECTIONbUNIONaPITCHFORKaEQUAL AND PARALLEL TO
22D6aLESS-THAN WITH DOTaGREATER-THAN WITH DOTaVERY MUCH LESS-THANcGREATER-THAN
22DAaLESS-THAN EQUAL TO OR GREATER-THANaGREATER-THAN EQUAL TO OR LESS-THAN
22DCaEQUAL TO OR LESS-THANdGREATER-THANdPRECEDESdSUCCEEDS
22E0aDOES NOT PRECEDE OR EQUALcSUCCEED OR EQUAL
22E2aNOT SQUARE IMAGE OF OR EQUAL TOcORIGINAL OF OR EQUAL TO
22E4aSQUARE IMAGE OF OR NOT EQUAL TObORIGINAL OF OR NOT EQUAL TO
22E6aLESS-THAN BUT NOT EQUIVALENT TOaGREATER-THAN BUT NOT EQUIVALENT TO
22E8aPRECEDES BUT NOT EQUIVALENT TOaSUCCEEDS BUT NOT EQUIVALENT TO
22EAaNOT NORMAL SUBGROUP OFaDOES NOT CONTAIN AS NORMAL SUBGROUP
22ECaNOT NORMAL SUBGROUP OF OR EQUAL TO
22EDaDOES NOT CONTAIN AS NORMAL SUBGROUP OR EQUALaVERTICAL ELLIPSIS
22EFaMIDLINE HORIZONTAL ELLIPSISaUP RIGHT DIAGONAL ELLIPSIS
22F1aDOWN RIGHT DIAGONAL ELLIPSISaELEMENT OF WITH LONG HORIZONTAL STROKE
22F3aELEMENT OF WITH VERTICAL BAR AT END OF HORIZONTAL STROKE
22F4aSMALL ELEMENT OF WITH VERTICAL BAR AT END OF HORIZONTAL STROKE
22F5aELEMENT OF WITH DOT ABOVEdOVERBARaSMALL ELEMENT OF WITH OVERBAR
22F8aELEMENT OF WITH UNDERBARdTWO HORIZONTAL STROKES
22FAaCONTAINS WITH LONG HORIZONTAL STROKE
22FBaCONTAINS WITH VERTICAL BAR AT END OF HORIZONTAL STROKE
22FCaSMALL CONTAINS WITH VERTICAL BAR AT END OF HORIZONTAL STROKE
22FDaCONTAINS WITH OVERBARaSMALL CONTAINS WITH OVERBAR
22FFaZ NOTATION BAG MEMBERSHIPaDIAMETER SIGNaELECTRIC ARROWaHOUSEaUP ARROWHEAD
2304aDOWN ARROWHEADaPROJECTIVEaPERSPECTIVEaWAVY LINEaLEFT CEILING
2309aRIGHT CEILINGaLEFT FLOORaRIGHT FLOORaBOTTOM RIGHT CROPbLEFT CROP
230EaTOP RIGHT CROPbLEFT CROPaREVERSED NOT SIGNaSQUARE LOZENGEaARCaSEGMENT
2314aSECTORaTELEPHONE RECORDERaPOSITION INDICATORaVIEWDATA SQUARE
2318aPLACE OF INTEREST SIGNaTURNED NOT SIGNaWATCHaHOURGLASSaTOP LEFT CORNER
231DaTOP RIGHT CORNERaBOTTOM LEFT CORNERbRIGHT CORNERaTOP HALF INTEGRAL
2321aBOTTOM HALF INTEGRALaFROWNaSMILEaUP ARROWHEAD BETWEEN TWO HORIZONTAL BARS
2325aOPTION KEYaERASE TO THE RIGHTaX IN A RECTANGLE BOXaKEYBOARD
2329aLEFT-POINTING ANGLE BRACKETaRIGHT-POINTING ANGLE BRACKET
232BaERASE TO THE LEFTaBENZENE RINGaCYLINDRICITYaALL AROUND-PROFILEaSYMMETRY
2330aTOTAL RUNOUTaDIMENSION ORIGINaCONICAL TAPERaSLOPEaCOUNTERBOREaCOUNTERSINK
2336aAPL FUNCTIONAL SYMBOL I-BEAMdSQUISH QUADdQUAD EQUALeDIVIDEeDIAMONDeJOT
233CaAPL FUNCTIONAL SYMBOL QUAD CIRCLEdCIRCLE STILEeJOTdSLASH BAR
2340aAPL FUNCTIONAL SYMBOL BACKSLASH BARdQUAD SLASHeBACKSLASHeLESS-THAN
2344aAPL FUNCTIONAL SYMBOL QUAD GREATER-THANdLEFTWARDS VANEdRIGHTWARDS VANE
2347aAPL FUNCTIONAL SYMBOL QUAD LEFTWARDS ARROWeRIGHTWARDS ARROW
2349aAPL FUNCTIONAL SYMBOL CIRCLE BACKSLASHdDOWN TACK UNDERBARdDELTA STILE
234CaAPL FUNCTIONAL SYMBOL QUAD DOWN CARETeDELTAdDOWN TACK JOTdUPWARDS VANE
2350aAPL FUNCTIONAL SYMBOL QUAD UPWARDS ARROWdUP TACK OVERBARdDEL STILE
2353aAPL FUNCTIONAL SYMBOL QUAD UP CARETeDELdUP TACK JOTdDOWNWARDS VANE
2357aAPL FUNCTIONAL SYMBOL QUAD DOWNWARDS ARROWdQUOTE UNDERBARdDELTA UNDERBAR
235AaAPL FUNCTIONAL SYMBOL DIAMOND UNDERBARdJOT UNDERBARdCIRCLE UNDERBAR
235DaAPL FUNCTIONAL SYMBOL UP SHOE JOTdQUOTE QUADdCIRCLE STARdQUAD COLON
2361aAPL FUNCTIONAL SYMBOL UP TACK DIAERESISdDEL DIAERESISdSTAR DIAERESIS
2364aAPL FUNCTIONAL SYMBOL JOT DIAERESISdCIRCLE DIAERESISdDOWN SHOE STILE
2367aAPL FUNCTIONAL SYMBOL LEFT SHOE STILEdTILDE DIAERESIS
2369aAPL FUNCTIONAL SYMBOL GREATER-THAN DIAERESISdCOMMA BARdDEL TILDEdZILDE
236DaAPL FUNCTIONAL SYMBOL STILE TILDEdSEMICOLON UNDERBARdQUAD NOT EQUAL
2370aAPL FUNCTIONAL SYMBOL QUAD QUESTIONdDOWN CARET TILDEdUP CARET TILDEdIOTA
2374aAPL FUNCTIONAL SYMBOL RHOdOMEGAdALPHA UNDERBARdEPSILON UNDERBAR
2378aAPL FUNCTIONAL SYMBOL IOTA UNDERBARdOMEGA UNDERBARdALPHAaNOT CHECK MARK
237CaRIGHT ANGLE WITH DOWNWARDS ZIGZAG ARROWaSHOULDERED OPEN BOXaBELL SYMBOL
237FaVERTICAL LINE WITH MIDDLE DOTaINSERTION SYMBOL
2381aCONTINUOUS UNDERLINE SYMBOLaDISCONTINUOUS UNDERLINE SYMBOL
2383aEMPHASIS SYMBOLaCOMPOSITION SYMBOLaWHITE SQUARE WITH CENTRE VERTICAL LINE
2386aENTER SYMBOLaALTERNATIVE KEY SYMBOLaHELM SYMBOL
2389aCIRCLED HORIZONTAL BAR WITH NOTCHbTRIANGLE DOWN
238BaBROKEN CIRCLE WITH NORTHWEST ARROWaUNDO SYMBOLaMONOSTABLE SYMBOL
238EaHYSTERESIS SYMBOLaOPEN-CIRCUIT-OUTPUT H-TYPE SYMBOLdL-TYPE SYMBOL
2391aPASSIVE-PULL-DOWN-OUTPUT SYMBOLcUP-OUTPUT SYMBOL
2393aDIRECT CURRENT SYMBOL FORM TWOaSOFTWARE-FUNCTION SYMBOL
2395aAPL FUNCTIONAL SYMBOL QUADaDECIMAL SEPARATOR KEY SYMBOLaPREVIOUS PAGE
2398aNEXT PAGEaPRINT SCREEN SYMBOLaCLEAR SCREEN SYMBOL
239BaLEFT PARENTHESIS UPPER HOOKcEXTENSIONcLOWER HOOK
239EaRIGHT PARENTHESIS UPPER HOOKcEXTENSIONcLOWER HOOK
23A1aLEFT SQUARE BRACKET UPPER CORNERdEXTENSIONdLOWER CORNER
23A4aRIGHT SQUARE BRACKET UPPER CORNERdEXTENSIONdLOWER CORNER
23A7aLEFT CURLY BRACKET UPPER HOOKdMIDDLE PIECEdLOWER HOOK
23AAaCURLY BRACKET EXTENSIONaRIGHT CURLY BRACKET UPPER HOOKdMIDDLE PIECE
23ADaRIGHT CURLY BRACKET LOWER HOOKaINTEGRAL EXTENSION
23AFaHORIZONTAL LINE EXTENSIONaUPPER LEFT OR LOWER RIGHT CURLY BRACKET SECTION
23B1aUPPER RIGHT OR LOWER LEFT CURLY BRACKET SECTIONaSUMMATION TOPbBOTTOM
23B4aTOP SQUARE BRACKETaBOTTOM SQUARE BRACKETd OVER TOP SQUARE BRACKET
23B7aRADICAL SYMBOL BOTTOMaLEFT VERTICAL BOX LINEaRIGHT VERTICAL BOX LINE
23BAaHORIZONTAL SCAN LINE-1d3d7d9
23BEaDENTISTRY SYMBOL LIGHT VERTICAL AND TOP RIGHTfBOTTOM RIGHTeWITH CIRCLE
23C1aDENTISTRY SYMBOL LIGHT DOWN AND HORIZONTAL WITH CIRCLE
23C2aDENTISTRY SYMBOL LIGHT UP AND HORIZONTAL WITH CIRCLE
23C3aDENTISTRY SYMBOL LIGHT VERTICAL WITH TRIANGLE
23C4aDENTISTRY SYMBOL LIGHT DOWN AND HORIZONTAL WITH TRIANGLE
23C5aDENTISTRY SYMBOL LIGHT UP AND HORIZONTAL WITH TRIANGLEdVERTICAL AND WAVE
23C7aDENTISTRY SYMBOL LIGHT DOWN AND HORIZONTAL WITH WAVE
23C8aDENTISTRY SYMBOL LIGHT UP AND HORIZONTAL WITH WAVEdDOWN AND HORIZONTAL
23CAaDENTISTRY SYMBOL LIGHT UP AND HORIZONTALdVERTICAL AND TOP LEFT
23CCaDENTISTRY SYMBOL LIGHT VERTICAL AND BOTTOM LEFTaSQUARE FOOTaRETURN SYMBOL
23CFaEJECT SYMBOLaVERTICAL LINE EXTENSIONaMETRICAL BREVEbLONG OVER SHORT
23D3aMETRICAL SHORT OVER LONGbLONG OVER TWO SHORTSbTWO SHORTS OVER LONGdJOINED
23D7aMETRICAL TRISEMEbTETRASEMEbPENTASEMEaEARTH GROUNDaFUSEaTOP PARENTHESIS
23DDaBOTTOM PARENTHESISaTOP CURLY BRACKETaBOTTOM CURLY BRACKET
23E0aTOP TORTOISE SHELL BRACKETaBOTTOM TORTOISE SHELL BRACKETaWHITE TRAPEZIUM
23E3aBENZENE RING WITH CIRCLEaSTRAIGHTNESSaFLATNESSaAC CURRENT
23E7aELECTRICAL INTERSECTIONaDECIMAL EXPONENT SYMBOL
23E9aBLACK RIGHT-POINTING DOUBLE TRIANGLEbLEFT-POINTING DOUBLE TRIANGLE
23EBaBLACK UP-POINTING DOUBLE TRIANGLEbDOWN-POINTING DOUBLE TRIANGLE
23EDaBLACK RIGHT-POINTING DOUBLE TRIANGLE WITH VERTICAL BAR
23EEaBLACK LEFT-POINTING DOUBLE TRIANGLE WITH VERTICAL BAR
23EFaBLACK RIGHT-POINTING TRIANGLE WITH DOUBLE VERTICAL BARaALARM CLOCK
23F1aSTOPWATCHaTIMER CLOCKaHOURGLASS WITH FLOWING SAND
23F4aBLACK MEDIUM LEFT-POINTING TRIANGLEcRIGHT-POINTING TRIANGLE
23F6aBLACK MEDIUM UP-POINTING TRIANGLEcDOWN-POINTING TRIANGLE
23F8aDOUBLE VERTICAL BARaBLACK SQUARE FOR STOPbCIRCLE FOR RECORDaPOWER SYMBOL
23FCaPOWER ON-OFF SYMBOLbON SYMBOLbSLEEP SYMBOLaOBSERVER EYE SYMBOL
2400aSYMBOL FOR NULLcSTART OF HEADINGeTEXTcEND OF TEXTeTRANSMISSIONcENQUIRY
2406aSYMBOL FOR ACKNOWLEDGEcBELLcBACKSPACEcHORIZONTAL TABULATIONcLINE FEED
240BaSYMBOL FOR VERTICAL TABULATIONcFORM FEEDcCARRIAGE RETURNcSHIFT OUTdIN
2410aSYMBOL FOR DATA LINK ESCAPEcDEVICE CONTROL ONEeTWOeTHREEeFOUR
2415aSYMBOL FOR NEGATIVE ACKNOWLEDGEcSYNCHRONOUS IDLE
2417aSYMBOL FOR END OF TRANSMISSION BLOCKcCANCELcEND OF MEDIUMcSUBSTITUTE
241BaSYMBOL FOR ESCAPEcFILE SEPARATORcGROUP SEPARATORcRECORD SEPARATOR
241FaSYMBOL FOR UNIT SEPARATORcSPACEcDELETEaBLANK SYMBOLaOPEN BOX
2424aSYMBOL FOR NEWLINEcDELETE FORM TWOcSUBSTITUTE FORM TWO
2440aOCR HOOKbCHAIRbFORKbINVERTED FORKbBELT BUCKLEbBOW TIE
2446aOCR BRANCH BANK IDENTIFICATIONbAMOUNT OF CHECKbDASH
2449aOCR CUSTOMER ACCOUNT NUMBERbDOUBLE BACKSLASH
2460aCIRCLED DIGIT ONEcTWOcTHREEcFOURcFIVEcSIXcSEVENcEIGHTcNINEbNUMBER TEN
246AaCIRCLED NUMBER ELEVENcTWELVEcTHIRTEENcFOURTEENcFIFTEENcSIXTEENcSEVENTEEN
2471aCIRCLED NUMBER EIGHTEENcNINETEENcTWENTYaPARENTHESIZED DIGIT ONEcTWOcTHREE
2477aPARENTHESIZED DIGIT FOURcFIVEcSIXcSEVENcEIGHTcNINEbNUMBER TENcELEVEN
247FaPARENTHESIZED NUMBER TWELVEcTHIRTEENcFOURTEENcFIFTEENcSIXTEENcSEVENTEEN
2485aPARENTHESIZED NUMBER EIGHTEENcNINETEENcTWENTYaDIGIT ONE FULL STOP
2489aDIGIT TWO FULL STOPbTHREE FULL STOPbFOUR FULL STOPbFIVE FULL STOP
248DaDIGIT SIX FULL STOPbSEVEN FULL STOPbEIGHT FULL STOPbNINE FULL STOP
2491aNUMBER TEN FULL STOPbELEVEN FULL STOPbTWELVE FULL STOPbTHIRTEEN FULL STOP
2495aNUMBER FOURTEEN FULL STOPbFIFTEEN FULL STOPbSIXTEEN FULL STOP
2498aNUMBER SEVENTEEN FULL STOPbEIGHTEEN FULL STOPbNINETEEN FULL STOP
249BaNUMBER TWENTY FULL STOPaPARENTHESIZED LATIN SMALL LETTER AeBeCeDeEeFeGeH
24A4aPARENTHESIZED LATIN SMALL LETTER IeJeKeLeMeNeOePeQeReSeTeUeVeWeXeYeZ
24B6aCIRCLED LATIN CAPITAL LETTER AeBeCeDeEeFeGeHeIeJeKeLeMeNeOePeQeReSeTeUeV
24CCaCIRCLED LATIN CAPITAL LETTER WeXeYeZcSMALL LETTER AeBeCeDeEeFeGeHeIeJeKeL
24DCaCIRCLED LATIN SMALL LETTER MeNeOePeQeReSeTeUeVeWeXeYeZbDIGIT ZERO
24EBaNEGATIVE CIRCLED NUMBER ELEVENdTWELVEdTHIRTEENdFOURTEENdFIFTEENdSIXTEEN
24F1aNEGATIVE CIRCLED NUMBER SEVENTEENdEIGHTEENdNINETEENdTWENTY
24F5aDOUBLE CIRCLED DIGIT ONEdTWOdTHREEdFOURdFIVEdSIXdSEVENdEIGHTdNINE
24FEaDOUBLE CIRCLED NUMBER TENaNEGATIVE CIRCLED DIGIT ZERO
2500aBOX DRAWINGS LIGHT HORIZONTALcHEAVY HORIZONTALcLIGHT VERTICAL
2503aBOX DRAWINGS HEAVY VERTICALcLIGHT TRIPLE DASH HORIZONTAL
2505aBOX DRAWINGS HEAVY TRIPLE DASH HORIZONTALcLIGHT TRIPLE DASH VERTICAL
2507aBOX DRAWINGS HEAVY TRIPLE DASH VERTICALcLIGHT QUADRUPLE DASH HORIZONTAL
2509aBOX DRAWINGS HEAVY QUADRUPLE DASH HORIZONTAL
250AaBOX DRAWINGS LIGHT QUADRUPLE DASH VERTICALcHEAVY QUADRUPLE DASH VERTICAL
250CaBOX DRAWINGS LIGHT DOWN AND RIGHTcDOWN LIGHT AND RIGHT HEAVY
250EaBOX DRAWINGS DOWN HEAVY AND RIGHT LIGHTcHEAVY DOWN AND RIGHT
2510aBOX DRAWINGS LIGHT DOWN AND LEFTcDOWN LIGHT AND LEFT HEAVY
2512aBOX DRAWINGS DOWN HEAVY AND LEFT LIGHTcHEAVY DOWN AND LEFT
2514aBOX DRAWINGS LIGHT UP AND RIGHTcUP LIGHT AND RIGHT HEAVY
2516aBOX DRAWINGS UP HEAVY AND RIGHT LIGHTcHEAVY UP AND RIGHT
2518aBOX DRAWINGS LIGHT UP AND LEFTcUP LIGHT AND LEFT HEAVY
251AaBOX DRAWINGS UP HEAVY AND LEFT LIGHTcHEAVY UP AND LEFT
251CaBOX DRAWINGS LIGHT VERTICAL AND RIGHTcVERTICAL LIGHT AND RIGHT HEAVY
251EaBOX DRAWINGS UP HEAVY AND RIGHT DOWN LIGHTcDOWN HEAVY AND RIGHT UP LIGHT
2520aBOX DRAWINGS VERTICAL HEAVY AND RIGHT LIGHTcDOWN LIGHT AND RIGHT UP HEAVY
2522aBOX DRAWINGS UP LIGHT AND RIGHT DOWN HEAVYcHEAVY VERTICAL AND RIGHT
2524aBOX DRAWINGS LIGHT VERTICAL AND LEFTcVERTICAL LIGHT AND LEFT HEAVY
2526aBOX DRAWINGS UP HEAVY AND LEFT DOWN LIGHTcDOWN HEAVY AND LEFT UP LIGHT
2528aBOX DRAWINGS VERTICAL HEAVY AND LEFT LIGHTcDOWN LIGHT AND LEFT UP HEAVY
252AaBOX DRAWINGS UP LIGHT AND LEFT DOWN HEAVYcHEAVY VERTICAL AND LEFT
252CaBOX DRAWINGS LIGHT DOWN AND HORIZONTALcLEFT HEAVY AND RIGHT DOWN LIGHT
252EaBOX DRAWINGS RIGHT HEAVY AND LEFT DOWN LIGHT
252FaBOX DRAWINGS DOWN LIGHT AND HORIZONTAL HEAVYdHEAVY AND HORIZONTAL LIGHT
2531aBOX DRAWINGS RIGHT LIGHT AND LEFT DOWN HEAVY
2532aBOX DRAWINGS LEFT LIGHT AND RIGHT DOWN HEAVYcHEAVY DOWN AND HORIZONTAL
2534aBOX DRAWINGS LIGHT UP AND HORIZONTALcLEFT HEAVY AND RIGHT UP LIGHT
2536aBOX DRAWINGS RIGHT HEAVY AND LEFT UP LIGHTcUP LIGHT AND HORIZONTAL HEAVY
2538aBOX DRAWINGS UP HEAVY AND HORIZONTAL LIGHTcRIGHT LIGHT AND LEFT UP HEAVY
253AaBOX DRAWINGS LEFT LIGHT AND RIGHT UP HEAVYcHEAVY UP AND HORIZONTAL
253CaBOX DRAWINGS LIGHT VERTICAL AND HORIZONTAL
253DaBOX DRAWINGS LEFT HEAVY AND RIGHT VERTICAL LIGHT
253EaBOX DRAWINGS RIGHT HEAVY AND LEFT VERTICAL LIGHT
253FaBOX DRAWINGS VERTICAL LIGHT AND HORIZONTAL HEAVY
2540aBOX DRAWINGS UP HEAVY AND DOWN HORIZONTAL LIGHT
2541aBOX DRAWINGS DOWN HEAVY AND UP HORIZONTAL LIGHT
2542aBOX DRAWINGS VERTICAL HEAVY AND HORIZONTAL LIGHT
2543aBOX DRAWINGS LEFT UP HEAVY AND RIGHT DOWN LIGHT
2544aBOX DRAWINGS RIGHT UP HEAVY AND LEFT DOWN LIGHT
2545aBOX DRAWINGS LEFT DOWN HEAVY AND RIGHT UP LIGHT
2546aBOX DRAWINGS RIGHT DOWN HEAVY AND LEFT UP LIGHT
2547aBOX DRAWINGS DOWN LIGHT AND UP HORIZONTAL HEAVY
2548aBOX DRAWINGS UP LIGHT AND DOWN HORIZONTAL HEAVY
2549aBOX DRAWINGS RIGHT LIGHT AND LEFT VERTICAL HEAVY
254AaBOX DRAWINGS LEFT LIGHT AND RIGHT VERTICAL HEAVY
254BaBOX DRAWINGS HEAVY VERTICAL AND HORIZONTALcLIGHT DOUBLE DASH HORIZONTAL
254DaBOX DRAWINGS HEAVY DOUBLE DASH HORIZONTALcLIGHT DOUBLE DASH VERTICAL
254FaBOX DRAWINGS HEAVY DOUBLE DASH VERTICALcDOUBLE HORIZONTALdVERTICAL
2552aBOX DRAWINGS DOWN SINGLE AND RIGHT DOUBLEdDOUBLE AND RIGHT SINGLE
2554aBOX DRAWINGS DOUBLE DOWN AND RIGHTcDOWN SINGLE AND LEFT DOUBLE
2556aBOX DRAWINGS DOWN DOUBLE AND LEFT SINGLEcDOUBLE DOWN AND LEFT
2558aBOX DRAWINGS UP SINGLE AND RIGHT DOUBLEdDOUBLE AND RIGHT SINGLE
255AaBOX DRAWINGS DOUBLE UP AND RIGHTcUP SINGLE AND LEFT DOUBLE
255CaBOX DRAWINGS UP DOUBLE AND LEFT SINGLEcDOUBLE UP AND LEFT
255EaBOX DRAWINGS VERTICAL SINGLE AND RIGHT DOUBLEdDOUBLE AND RIGHT SINGLE
2560aBOX DRAWINGS DOUBLE VERTICAL AND RIGHTcVERTICAL SINGLE AND LEFT DOUBLE
2562aBOX DRAWINGS VERTICAL DOUBLE AND LEFT SINGLEcDOUBLE VERTICAL AND LEFT
2564aBOX DRAWINGS DOWN SINGLE AND HORIZONTAL DOUBLE
2565aBOX DRAWINGS DOWN DOUBLE AND HORIZONTAL SINGLEcDOUBLE DOWN AND HORIZONTAL
2567aBOX DRAWINGS UP SINGLE AND HORIZONTAL DOUBLEdDOUBLE AND HORIZONTAL SINGLE
2569aBOX DRAWINGS DOUBLE UP AND HORIZONTAL
256AaBOX DRAWINGS VERTICAL SINGLE AND HORIZONTAL DOUBLE
256BaBOX DRAWINGS VERTICAL DOUBLE AND HORIZONTAL SINGLE
256CaBOX DRAWINGS DOUBLE VERTICAL AND HORIZONTALcLIGHT ARC DOWN AND RIGHTgLEFT
256FaBOX DRAWINGS LIGHT ARC UP AND LEFTgRIGHT
2571aBOX DRAWINGS LIGHT DIAGONAL UPPER RIGHT TO LOWER LEFTfLEFT TO LOWER RIGHT
2573aBOX DRAWINGS LIGHT DIAGONAL CROSSdLEFTdUPdRIGHTdDOWNcHEAVY LEFTdUPdRIGHT
257BaBOX DRAWINGS HEAVY DOWNcLIGHT LEFT AND HEAVY RIGHTdUP AND HEAVY DOWN
257EaBOX DRAWINGS HEAVY LEFT AND LIGHT RIGHTdUP AND LIGHT DOWN
2580aUPPER HALF BLOCKaLOWER ONE EIGHTH BLOCKcQUARTER BLOCKbTHREE EIGHTHS BLOCK
2584aLOWER HALF BLOCKbFIVE EIGHTHS BLOCKbTHREE QUARTERS BLOCK
2587aLOWER SEVEN EIGHTHS BLOCKaFULL BLOCKaLEFT SEVEN EIGHTHS BLOCK
258AaLEFT THREE QUARTERS BLOCKbFIVE EIGHTHS BLOCKbHALF BLOCK
258DaLEFT THREE EIGHTHS BLOCKbONE QUARTER BLOCKcEIGHTH BLOCKaRIGHT HALF BLOCK
2591aLIGHT SHADEaMEDIUM SHADEaDARK SHADEaUPPER ONE EIGHTH BLOCK
2595aRIGHT ONE EIGHTH BLOCKaQUADRANT LOWER LEFTcRIGHTbUPPER LEFT
2599aQUADRANT UPPER LEFT AND LOWER LEFT AND LOWER RIGHTfRIGHT
259BaQUADRANT UPPER LEFT AND UPPER RIGHT AND LOWER LEFTiRIGHTcRIGHT
259EaQUADRANT UPPER RIGHT AND LOWER LEFTg AND LOWER RIGHTaBLACK SQUARE
25A1aWHITE SQUAREc WITH ROUNDED CORNERScCONTAINING BLACK SMALL SQUARE
25A4aSQUARE WITH HORIZONTAL FILLcVERTICAL FILLcORTHOGONAL CROSSHATCH FILL
25A7aSQUARE WITH UPPER LEFT TO LOWER RIGHT FILLdRIGHT TO LOWER LEFT FILL
25A9aSQUARE WITH DIAGONAL CROSSHATCH FILLaBLACK SMALL SQUARE
25ABaWHITE SMALL SQUAREaBLACK RECTANGLEaWHITE RECTANGLE
25AEaBLACK VERTICAL RECTANGLEaWHITE VERTICAL RECTANGLEaBLACK PARALLELOGRAM
25B1aWHITE PARALLELOGRAMaBLACK UP-POINTING TRIANGLEaWHITE UP-POINTING TRIANGLE
25B4aBLACK UP-POINTING SMALL TRIANGLEaWHITE UP-POINTING SMALL TRIANGLE
25B6aBLACK RIGHT-POINTING TRIANGLEaWHITE RIGHT-POINTING TRIANGLE
25B8aBLACK RIGHT-POINTING SMALL TRIANGLEaWHITE RIGHT-POINTING SMALL TRIANGLE
25BAaBLACK RIGHT-POINTING POINTERaWHITE RIGHT-POINTING POINTER
25BCaBLACK DOWN-POINTING TRIANGLEaWHITE DOWN-POINTING TRIANGLE
25BEaBLACK DOWN-POINTING SMALL TRIANGLEaWHITE DOWN-POINTING SMALL TRIANGLE
25C0aBLACK LEFT-POINTING TRIANGLEaWHITE LEFT-POINTING TRIANGLE
25C2aBLACK LEFT-POINTING SMALL TRIANGLEaWHITE LEFT-POINTING SMALL TRIANGLE
25C4aBLACK LEFT-POINTING POINTERaWHITE LEFT-POINTING POINTERaBLACK DIAMOND
25C7aWHITE DIAMONDc CONTAINING BLACK SMALL DIAMONDaFISHEYEaLOZENGE
25CBaWHITE CIRCLEaDOTTED CIRCLEaCIRCLE WITH VERTICAL FILLaBULLSEYE
25CFaBLACK CIRCLEaCIRCLE WITH LEFT HALF BLACKcRIGHT HALF BLACK
25D2aCIRCLE WITH LOWER HALF BLACKcUPPER HALF BLACKdRIGHT QUADRANT BLACK
25D5aCIRCLE WITH ALL BUT UPPER LEFT QUADRANT BLACKaLEFT HALF BLACK CIRCLE
25D7aRIGHT HALF BLACK CIRCLEaINVERSE BULLETbWHITE CIRCLE
25DAaUPPER HALF INVERSE WHITE CIRCLEaLOWER HALF INVERSE WHITE CIRCLE
25DCaUPPER LEFT QUADRANT CIRCULAR ARCbRIGHT QUADRANT CIRCULAR ARC
25DEaLOWER RIGHT QUADRANT CIRCULAR ARCbLEFT QUADRANT CIRCULAR ARC
25E0aUPPER HALF CIRCLEaLOWER HALF CIRCLEaBLACK LOWER RIGHT TRIANGLE
25E3aBLACK LOWER LEFT TRIANGLEbUPPER LEFT TRIANGLEcRIGHT TRIANGLEaWHITE BULLET
25E7aSQUARE WITH LEFT HALF BLACKcRIGHT HALF BLACK
25E9aSQUARE WITH UPPER LEFT DIAGONAL HALF BLACK
25EAaSQUARE WITH LOWER RIGHT DIAGONAL HALF BLACK
25EBaWHITE SQUARE WITH VERTICAL BISECTING LINEbUP-POINTING TRIANGLE WITH DOT
25EDaUP-POINTING TRIANGLE WITH LEFT HALF BLACKeRIGHT HALF BLACKaLARGE CIRCLE
25F0aWHITE SQUARE WITH UPPER LEFT QUADRANTdLOWER LEFT QUADRANTeRIGHT QUADRANT
25F3aWHITE SQUARE WITH UPPER RIGHT QUADRANTbCIRCLE WITH UPPER LEFT QUADRANT
25F5aWHITE CIRCLE WITH LOWER LEFT QUADRANTeRIGHT QUADRANTdUPPER RIGHT QUADRANT
25F8aUPPER LEFT TRIANGLEbRIGHT TRIANGLEaLOWER LEFT TRIANGLE
25FBaWHITE MEDIUM SQUAREaBLACK MEDIUM SQUAREaWHITE MEDIUM SMALL SQUARE
25FEaBLACK MEDIUM SMALL SQUAREaLOWER RIGHT TRIANGLEaBLACK SUN WITH RAYSaCLOUD
2602aUMBRELLAaSNOWMANaCOMETaBLACK STARaWHITE STARaLIGHTNINGaTHUNDERSTORMaSUN
260AaASCENDING NODEaDESCENDING NODEaCONJUNCTIONaOPPOSITIONaBLACK TELEPHONE
260FaWHITE TELEPHONEaBALLOT BOXc WITH CHECKdXaSALTIREaUMBRELLA WITH RAIN DROPS
2615aHOT BEVERAGEaWHITE SHOGI PIECEaBLACK SHOGI PIECEaSHAMROCK
2619aREVERSED ROTATED FLORAL HEART BULLETaBLACK LEFT POINTING INDEX
261BaBLACK RIGHT POINTING INDEXaWHITE LEFT POINTING INDEXbUP POINTING INDEX
261EaWHITE RIGHT POINTING INDEXbDOWN POINTING INDEXaSKULL AND CROSSBONES
2621aCAUTION SIGNaRADIOACTIVE SIGNaBIOHAZARD SIGNaCADUCEUSaANKHaORTHODOX CROSS
2627aCHI RHOaCROSS OF LORRAINEcJERUSALEMaSTAR AND CRESCENTaFARSI SYMBOL
262CaADI SHAKTIaHAMMER AND SICKLEaPEACE SYMBOLaYIN YANGaTRIGRAM FOR HEAVEN
2631aTRIGRAM FOR LAKEcFIREcTHUNDERcWINDcWATERcMOUNTAINcEARTHaWHEEL OF DHARMA
2639aWHITE FROWNING FACEbSMILING FACEaBLACK SMILING FACEaWHITE SUN WITH RAYS
263DaFIRST QUARTER MOONaLAST QUARTER MOONaMERCURYaFEMALE SIGNaEARTHaMALE SIGN
2643aJUPITERaSATURNaURANUSaNEPTUNEaPLUTOaARIESaTAURUSaGEMINIaCANCERaLEOaVIRGO
264EaLIBRAaSCORPIUSaSAGITTARIUSaCAPRICORNaAQUARIUSaPISCESaWHITE CHESS KING
2655aWHITE CHESS QUEENcROOKcBISHOPcKNIGHTcPAWNaBLACK CHESS KINGcQUEENcROOK
265DaBLACK CHESS BISHOPcKNIGHTcPAWNbSPADE SUITaWHITE HEART SUITbDIAMOND SUIT
2663aBLACK CLUB SUITaWHITE SPADE SUITaBLACK HEART SUITbDIAMOND SUIT
2667aWHITE CLUB SUITaHOT SPRINGSaQUARTER NOTEaEIGHTH NOTEaBEAMED EIGHTH NOTES
266CaBEAMED SIXTEENTH NOTESaMUSIC FLAT SIGNbNATURAL SIGNbSHARP SIGN
2670aWEST SYRIAC CROSSaEAST SYRIAC CROSSaUNIVERSAL RECYCLING SYMBOL
2673aRECYCLING SYMBOL FOR TYPE-1 PLASTICSe2 PLASTICSe3 PLASTICSe4 PLASTICS
2677aRECYCLING SYMBOL FOR TYPE-5 PLASTICSe6 PLASTICSe7 PLASTICS
267AaRECYCLING SYMBOL FOR GENERIC MATERIALSaBLACK UNIVERSAL RECYCLING SYMBOL
267CaRECYCLED PAPER SYMBOLaPARTIALLY-RECYCLED PAPER SYMBOL
267EaPERMANENT PAPER SIGNaWHEELCHAIR SYMBOLaDIE FACE-1c2c3c4c5c6
2686aWHITE CIRCLE WITH DOT RIGHTdTWO DOTSaBLACK CIRCLE WITH WHITE DOT RIGHT
2689aBLACK CIRCLE WITH TWO WHITE DOTSaMONOGRAM FOR YANGcYIN
268CaDIGRAM FOR GREATER YANGcLESSER YINdYANGcGREATER YINaWHITE FLAGaBLACK FLAG
2692aHAMMER AND PICKaANCHORaCROSSED SWORDSaSTAFF OF AESCULAPIUSaSCALESaALEMBIC
2698aFLOWERaGEARaSTAFF OF HERMESaATOM SYMBOLaFLEUR-DE-LISaOUTLINED WHITE STAR
269EaTHREE LINES CONVERGING RIGHTdLEFTaWARNING SIGNaHIGH VOLTAGE SIGN
26A2aDOUBLED FEMALE SIGNbMALE SIGNaINTERLOCKED FEMALE AND MALE SIGN
26A5aMALE AND FEMALE SIGNbWITH STROKE SIGNdAND MALE AND FEMALE SIGN
26A8aVERTICAL MALE WITH STROKE SIGNaHORIZONTAL MALE WITH STROKE SIGN
26AAaMEDIUM WHITE CIRCLEbBLACK CIRCLEbSMALL WHITE CIRCLEaMARRIAGE SYMBOL
26AEaDIVORCE SYMBOLaUNMARRIED PARTNERSHIP SYMBOLaCOFFINaFUNERAL URNaNEUTER
26B3aCERESaPALLASaJUNOaVESTAaCHIRONaBLACK MOON LILITHaSEXTILEaSEMISEXTILE
26BBaQUINCUNXaSESQUIQUADRATEaSOCCER BALLaBASEBALLaSQUARED KEY
26C0aWHITE DRAUGHTS MANcKINGaBLACK DRAUGHTS MANcKINGaSNOWMAN WITHOUT SNOW
26C5aSUN BEHIND CLOUDaRAINaBLACK SNOWMANaTHUNDER CLOUD AND RAIN
26C9aTURNED WHITE SHOGI PIECEbBLACK SHOGI PIECEaWHITE DIAMOND IN SQUARE
26CCaCROSSING LANESaDISABLED CARaOPHIUCHUSaPICKaCAR SLIDING
26D1aHELMET WITH WHITE CROSSaCIRCLED CROSSING LANESaCHAINSaNO ENTRY
26D5aALTERNATE ONE-WAY LEFT WAY TRAFFICaBLACK TWO-WAY LEFT WAY TRAFFIC
26D7aWHITE TWO-WAY LEFT WAY TRAFFICaBLACK LEFT LANE MERGE
26D9aWHITE LEFT LANE MERGEaDRIVE SLOW SIGNaHEAVY WHITE DOWN-POINTING TRIANGLE
26DCaLEFT CLOSED ENTRYaSQUARED SALTIRE
26DEaFALLING DIAGONAL IN WHITE CIRCLE IN BLACK SQUAREaBLACK TRUCK
26E0aRESTRICTED LEFT ENTRY-1d2aASTRONOMICAL SYMBOL FOR URANUS
26E3aHEAVY CIRCLE WITH STROKE AND TWO DOTS ABOVEaPENTAGRAM
26E5aRIGHT-HANDED INTERLACED PENTAGRAMaLEFT-HANDED INTERLACED PENTAGRAM
26E7aINVERTED PENTAGRAMaBLACK CROSS ON SHIELDaSHINTO SHRINEaCHURCHaCASTLE
26ECaHISTORIC SITEaGEAR WITHOUT HUBbWITH HANDLESaMAP SYMBOL FOR LIGHTHOUSE
26F0aMOUNTAINaUMBRELLA ON GROUNDaFOUNTAINaFLAG IN HOLEaFERRYaSAILBOAT
26F6aSQUARE FOUR CORNERSaSKIERaICE SKATEaPERSON WITH BALLaTENT
26FBaJAPANESE BANK SYMBOLaHEADSTONE GRAVEYARD SYMBOLaFUEL PUMP
26FEaCUP ON BLACK SQUAREaWHITE FLAG WITH HORIZONTAL MIDDLE BLACK STRIPE
2700aBLACK SAFETY SCISSORSaUPPER BLADE SCISSORSaBLACK SCISSORS
2703aLOWER BLADE SCISSORSaWHITE SCISSORSbHEAVY CHECK MARK
2706aTELEPHONE LOCATION SIGNaTAPE DRIVEaAIRPLANEaENVELOPEaRAISED FISTbHAND
270CaVICTORY HANDaWRITING HANDaLOWER RIGHT PENCILaPENCILaUPPER RIGHT PENCIL
2711aWHITE NIBaBLACK NIBaCHECK MARKaHEAVY CHECK MARKaMULTIPLICATION X
2716aHEAVY MULTIPLICATION XaBALLOT XaHEAVY BALLOT XaOUTLINED GREEK CROSS
271AaHEAVY GREEK CROSSaOPEN CENTRE CROSSaHEAVY OPEN CENTRE CROSSaLATIN CROSS
271EaSHADOWED WHITE LATIN CROSSaOUTLINED LATIN CROSSaMALTESE CROSS
2721aSTAR OF DAVIDaFOUR TEARDROP-SPOKED ASTERISKbBALLOON-SPOKED ASTERISK
2724aHEAVY FOUR BALLOON-SPOKED ASTERISKaFOUR CLUB-SPOKED ASTERISK
2726aBLACK FOUR POINTED STARaWHITE FOUR POINTED STARaSPARKLES
2729aSTRESS OUTLINED WHITE STARaCIRCLED WHITE STARaOPEN CENTRE BLACK STAR
272CaBLACK CENTRE WHITE STARaOUTLINED BLACK STARaHEAVY OUTLINED BLACK STAR
272FaPINWHEEL STARaSHADOWED WHITE STARaHEAVY ASTERISKaOPEN CENTRE ASTERISK
2733aEIGHT SPOKED ASTERISKbPOINTED BLACK STARcPINWHEEL STAR
2736aSIX POINTED BLACK STARaEIGHT POINTED RECTILINEAR BLACK STAR
2738aHEAVY EIGHT POINTED RECTILINEAR BLACK STARaTWELVE POINTED BLACK STAR
273AaSIXTEEN POINTED ASTERISKaTEARDROP-SPOKED ASTERISK
273CaOPEN CENTRE TEARDROP-SPOKED ASTERISKaHEAVY TEARDROP-SPOKED ASTERISK
273EaSIX PETALLED BLACK AND WHITE FLORETTEaBLACK FLORETTEaWHITE FLORETTE
2741aEIGHT PETALLED OUTLINED BLACK FLORETTE
2742aCIRCLED OPEN CENTRE EIGHT POINTED STAR
2743aHEAVY TEARDROP-SPOKED PINWHEEL ASTERISKaSNOWFLAKE
2745aTIGHT TRIFOLIATE SNOWFLAKEaHEAVY CHEVRON SNOWFLAKEaSPARKLEaHEAVY SPARKLE
2749aBALLOON-SPOKED ASTERISKaEIGHT TEARDROP-SPOKED PROPELLER ASTERISK
274BaHEAVY EIGHT TEARDROP-SPOKED PROPELLER ASTERISKaCROSS MARK
274DaSHADOWED WHITE CIRCLEaNEGATIVE SQUARED CROSS MARK
274FaLOWER RIGHT DROP-SHADOWED WHITE SQUARE
2750aUPPER RIGHT DROP-SHADOWED WHITE SQUAREaLOWER RIGHT SHADOWED WHITE SQUARE
2752aUPPER RIGHT SHADOWED WHITE SQUAREaBLACK QUESTION MARK ORNAMENT
2754aWHITE QUESTION MARK ORNAMENTbEXCLAMATION MARK ORNAMENT
2756aBLACK DIAMOND MINUS WHITE XaHEAVY EXCLAMATION MARK SYMBOL
2758aLIGHT VERTICAL BARaMEDIUM VERTICAL BARaHEAVY VERTICAL BAR
275BaHEAVY SINGLE TURNED COMMA QUOTATION MARK ORNAMENT
275CaHEAVY SINGLE COMMA QUOTATION MARK ORNAMENT
275DaHEAVY DOUBLE TURNED COMMA QUOTATION MARK ORNAMENT
275EaHEAVY DOUBLE COMMA QUOTATION MARK ORNAMENT
275FaHEAVY LOW SINGLE COMMA QUOTATION MARK ORNAMENT
2760aHEAVY LOW DOUBLE COMMA QUOTATION MARK ORNAMENT
2761aCURVED STEM PARAGRAPH SIGN ORNAMENTaHEAVY EXCLAMATION MARK ORNAMENT
2763aHEAVY HEART EXCLAMATION MARK ORNAMENTbBLACK HEART
2765aROTATED HEAVY BLACK HEART BULLETaFLORAL HEARTaROTATED FLORAL HEART BULLET
2768aMEDIUM LEFT PARENTHESIS ORNAMENTbRIGHT PARENTHESIS ORNAMENT
276AaMEDIUM FLATTENED LEFT PARENTHESIS ORNAMENTcRIGHT PARENTHESIS ORNAMENT
276CaMEDIUM LEFT-POINTING ANGLE BRACKET ORNAMENT
276DaMEDIUM RIGHT-POINTING ANGLE BRACKET ORNAMENT
276EaHEAVY LEFT-POINTING ANGLE QUOTATION MARK ORNAMENT
276FaHEAVY RIGHT-POINTING ANGLE QUOTATION MARK ORNAMENT
2770aHEAVY LEFT-POINTING ANGLE BRACKET ORNAMENT
2771aHEAVY RIGHT-POINTING ANGLE BRACKET ORNAMENT
2772aLIGHT LEFT TORTOISE SHELL BRACKET ORNAMENT
2773aLIGHT RIGHT TORTOISE SHELL BRACKET ORNAMENT
2774aMEDIUM LEFT CURLY BRACKET ORNAMENTbRIGHT CURLY BRACKET ORNAMENT
2776aDINGBAT NEGATIVE CIRCLED DIGIT ONEeTWOeTHREEeFOUReFIVEeSIXeSEVENeEIGHT
277EaDINGBAT NEGATIVE CIRCLED DIGIT NINEdNUMBER TEN
2780aDINGBAT CIRCLED SANS-SERIF DIGIT ONEfTWOfTHREEfFOURfFIVEfSIXfSEVENfEIGHT
2788aDINGBAT CIRCLED SANS-SERIF DIGIT NINEeNUMBER TEN
278AaDINGBAT NEGATIVE CIRCLED SANS-SERIF DIGIT ONEgTWOgTHREEgFOURgFIVEgSIX
2790aDINGBAT NEGATIVE CIRCLED SANS-SERIF DIGIT SEVENgEIGHTgNINEfNUMBER TEN
2794aHEAVY WIDE-HEADED RIGHTWARDS ARROWbPLUS SIGNbMINUS SIGNbDIVISION SIGN
2798aHEAVY SOUTH EAST ARROWbRIGHTWARDS ARROWbNORTH EAST ARROW
279BaDRAFTING POINT RIGHTWARDS ARROWaHEAVY ROUND-TIPPED RIGHTWARDS ARROW
279DaTRIANGLE-HEADED RIGHTWARDS ARROWaHEAVY TRIANGLE-HEADED RIGHTWARDS ARROW
279FaDASHED TRIANGLE-HEADED RIGHTWARDS ARROW
27A0aHEAVY DASHED TRIANGLE-HEADED RIGHTWARDS ARROWaBLACK RIGHTWARDS ARROW
27A2aTHREE-D TOP-LIGHTED RIGHTWARDS ARROWHEAD
27A3aTHREE-D BOTTOM-LIGHTED RIGHTWARDS ARROWHEADaBLACK RIGHTWARDS ARROWHEAD
27A5aHEAVY BLACK CURVED DOWNWARDS AND RIGHTWARDS ARROW
27A6aHEAVY BLACK CURVED UPWARDS AND RIGHTWARDS ARROW
27A7aSQUAT BLACK RIGHTWARDS ARROWaHEAVY CONCAVE-POINTED BLACK RIGHTWARDS ARROW
27A9aRIGHT-SHADED WHITE RIGHTWARDS ARROWaLEFT-SHADED WHITE RIGHTWARDS ARROW
27ABaBACK-TILTED SHADOWED WHITE RIGHTWARDS ARROW
27ACaFRONT-TILTED SHADOWED WHITE RIGHTWARDS ARROW
27ADaHEAVY LOWER RIGHT-SHADOWED WHITE RIGHTWARDS ARROW
27AEaHEAVY UPPER RIGHT-SHADOWED WHITE RIGHTWARDS ARROW
27AFaNOTCHED LOWER RIGHT-SHADOWED WHITE RIGHTWARDS ARROWaCURLY LOOP
27B1aNOTCHED UPPER RIGHT-SHADOWED WHITE RIGHTWARDS ARROW
27B2aCIRCLED HEAVY WHITE RIGHTWARDS ARROWaWHITE-FEATHERED RIGHTWARDS ARROW
27B4aBLACK-FEATHERED SOUTH EAST ARROWcRIGHTWARDS ARROWcNORTH EAST ARROW
27B7aHEAVY BLACK-FEATHERED SOUTH EAST ARROWdRIGHTWARDS ARROWdNORTH EAST ARROW
27BAaTEARDROP-BARBED RIGHTWARDS ARROWaHEAVY TEARDROP-SHANKED RIGHTWARDS ARROW
27BCaWEDGE-TAILED RIGHTWARDS ARROWaHEAVY WEDGE-TAILED RIGHTWARDS ARROW
27BEaOPEN-OUTLINED RIGHTWARDS ARROWaDOUBLE CURLY LOOPaTHREE DIMENSIONAL ANGLE
27C1aWHITE TRIANGLE CONTAINING SMALL WHITE TRIANGLEaPERPENDICULARaOPEN SUBSET
27C4aOPEN SUPERSETaLEFT S-SHAPED BAG DELIMITERaRIGHT S-SHAPED BAG DELIMITER
27C7aOR WITH DOT INSIDEaREVERSE SOLIDUS PRECEDING SUBSET
27C9aSUPERSET PRECEDING SOLIDUSaVERTICAL BAR WITH HORIZONTAL STROKE
27CBaMATHEMATICAL RISING DIAGONALaLONG DIVISIONaMATHEMATICAL FALLING DIAGONAL
27CEaSQUARED LOGICAL ANDcORaWHITE DIAMOND WITH CENTRED DOTaAND WITH DOT
27D2aELEMENT OF OPENING UPWARDSaLOWER RIGHT CORNER WITH DOT
27D4aUPPER LEFT CORNER WITH DOTaLEFT OUTER JOINaRIGHT OUTER JOIN
27D7aFULL OUTER JOINaLARGE UP TACKbDOWN TACKaLEFT AND RIGHT DOUBLE TURNSTILE
27DBaLEFT AND RIGHT TACKbMULTIMAPaLONG RIGHT TACKbLEFT TACK
27DFaUP TACK WITH CIRCLE ABOVEaLOZENGE DIVIDED BY HORIZONTAL RULE
27E1aWHITE CONCAVE-SIDED DIAMONDe WITH LEFTWARDS TICKfRIGHTWARDS TICK
27E4aWHITE SQUARE WITH LEFTWARDS TICKdRIGHTWARDS TICK
27E6aMATHEMATICAL LEFT WHITE SQUARE BRACKETbRIGHT WHITE SQUARE BRACKET
27E8aMATHEMATICAL LEFT ANGLE BRACKETbRIGHT ANGLE BRACKET
27EAaMATHEMATICAL LEFT DOUBLE ANGLE BRACKETbRIGHT DOUBLE ANGLE BRACKET
27ECaMATHEMATICAL LEFT WHITE TORTOISE SHELL BRACKET
27EDaMATHEMATICAL RIGHT WHITE TORTOISE SHELL BRACKET
27EEaMATHEMATICAL LEFT FLATTENED PARENTHESISbRIGHT FLATTENED PARENTHESIS
27F0aUPWARDS QUADRUPLE ARROWaDOWNWARDS QUADRUPLE ARROW
27F2aANTICLOCKWISE GAPPED CIRCLE ARROWaCLOCKWISE GAPPED CIRCLE ARROW
27F4aRIGHT ARROW WITH CIRCLED PLUSaLONG LEFTWARDS ARROWbRIGHTWARDS ARROW
27F7aLONG LEFT RIGHT ARROWbLEFTWARDS DOUBLE ARROWbRIGHTWARDS DOUBLE ARROW
27FAaLONG LEFT RIGHT DOUBLE ARROWbLEFTWARDS ARROW FROM BAR
27FCaLONG RIGHTWARDS ARROW FROM BARbLEFTWARDS DOUBLE ARROW FROM BAR
27FEaLONG RIGHTWARDS DOUBLE ARROW FROM BARcSQUIGGLE ARROW
2800aBRAILLE PATTERN BLANKcDOTS-1d2d12d3d13d23d123d4d14d24d124d34d134d234d1234
2810aBRAILLE PATTERN DOTS-5d15d25d125d35d135d235d1235d45d145d245d1245d345d1345
281EaBRAILLE PATTERN DOTS-2345d12345d6d16d26d126d36d136d236d1236d46d146d246
282BaBRAILLE PATTERN DOTS-1246d346d1346d2346d12346d56d156d256d1256d356d1356
2836aBRAILLE PATTERN DOTS-2356d12356d456d1456d2456d12456d3456d13456d23456
283FaBRAILLE PATTERN DOTS-123456d7d17d27d127d37d137d237d1237d47d147d247d1247
284CaBRAILLE PATTERN DOTS-347d1347d2347d12347d57d157d257d1257d357d1357d2357
2857aBRAILLE PATTERN DOTS-12357d457d1457d2457d12457d3457d13457d23457d123457d67
2861aBRAILLE PATTERN DOTS-167d267d1267d367d1367d2367d12367d467d1467d2467d12467
286CaBRAILLE PATTERN DOTS-3467d13467d23467d123467d567d1567d2567d12567d3567
2875aBRAILLE PATTERN DOTS-13567d23567d123567d4567d14567d24567d124567d34567
287DaBRAILLE PATTERN DOTS-134567d234567d1234567d8d18d28d128d38d138d238d1238d48
2889aBRAILLE PATTERN DOTS-148d248d1248d348d1348d2348d12348d58d158d258d1258d358
2895aBRAILLE PATTERN DOTS-1358d2358d12358d458d1458d2458d12458d3458d13458d23458
289FaBRAILLE PATTERN DOTS-123458d68d168d268d1268d368d1368d2368d12368d468d1468
28AAaBRAILLE PATTERN DOTS-2468d12468d3468d13468d23468d123468d568d1568d2568
28B3aBRAILLE PATTERN DOTS-12568d3568d13568d23568d123568d4568d14568d24568
28BBaBRAILLE PATTERN DOTS-124568d34568d134568d234568d1234568d78d178d278d1278
28C4aBRAILLE PATTERN DOTS-378d1378d2378d12378d478d1478d2478d12478d3478d13478
28CEaBRAILLE PATTERN DOTS-23478d123478d578d1578d2578d12578d3578d13578d23578
28D7aBRAILLE PATTERN DOTS-123578d4578d14578d24578d124578d34578d134578d234578
28DFaBRAILLE PATTERN DOTS-1234578d678d1678d2678d12678d3678d13678d23678d123678
28E8aBRAILLE PATTERN DOTS-4678d14678d24678d124678d34678d134678d234678d1234678
28F0aBRAILLE PATTERN DOTS-5678d15678d25678d125678d35678d135678d235678d1235678
28F8aBRAILLE PATTERN DOTS-45678d145678d245678d1245678d345678d1345678d2345678
28FFaBRAILLE PATTERN DOTS-12345678
2900aRIGHTWARDS TWO-HEADED ARROW WITH VERTICAL STROKEfDOUBLE VERTICAL STROKE
2902aLEFTWARDS DOUBLE ARROW WITH VERTICAL STROKE
2903aRIGHTWARDS DOUBLE ARROW WITH VERTICAL STROKE
2904aLEFT RIGHT DOUBLE ARROW WITH VERTICAL STROKE
2905aRIGHTWARDS TWO-HEADED ARROW FROM BARaLEFTWARDS DOUBLE ARROW FROM BAR
2907aRIGHTWARDS DOUBLE ARROW FROM BARaDOWNWARDS ARROW WITH HORIZONTAL STROKE
2909aUPWARDS ARROW WITH HORIZONTAL STROKEbTRIPLE ARROWaDOWNWARDS TRIPLE ARROW
290CaLEFTWARDS DOUBLE DASH ARROWaRIGHTWARDS DOUBLE DASH ARROW
290EaLEFTWARDS TRIPLE DASH ARROWaRIGHTWARDS TRIPLE DASH ARROW
2910aRIGHTWARDS TWO-HEADED TRIPLE DASH ARROWbARROW WITH DOTTED STEM
2912aUPWARDS ARROW TO BARaDOWNWARDS ARROW TO BAR
2914aRIGHTWARDS ARROW WITH TAIL WITH VERTICAL STROKEfDOUBLE VERTICAL STROKE
2916aRIGHTWARDS TWO-HEADED ARROW WITH TAILg WITH VERTICAL STROKE
2918aRIGHTWARDS TWO-HEADED ARROW WITH TAIL WITH DOUBLE VERTICAL STROKE
2919aLEFTWARDS ARROW-TAILaRIGHTWARDS ARROW-TAILaLEFTWARDS DOUBLE ARROW-TAIL
291CaRIGHTWARDS DOUBLE ARROW-TAILaLEFTWARDS ARROW TO BLACK DIAMOND
291EaRIGHTWARDS ARROW TO BLACK DIAMOND
291FaLEFTWARDS ARROW FROM BAR TO BLACK DIAMOND
2920aRIGHTWARDS ARROW FROM BAR TO BLACK DIAMOND
2921aNORTH WEST AND SOUTH EAST ARROWbEAST AND SOUTH WEST ARROW
2923aNORTH WEST ARROW WITH HOOKbEAST ARROW WITH HOOK
2925aSOUTH EAST ARROW WITH HOOKbWEST ARROW WITH HOOK
2927aNORTH WEST ARROW AND NORTH EAST ARROWbEAST ARROW AND SOUTH EAST ARROW
2929aSOUTH EAST ARROW AND SOUTH WEST ARROWbWEST ARROW AND NORTH WEST ARROW
292BaRISING DIAGONAL CROSSING FALLING DIAGONAL
292CaFALLING DIAGONAL CROSSING RISING DIAGONAL
292DaSOUTH EAST ARROW CROSSING NORTH EAST ARROW
292EaNORTH EAST ARROW CROSSING SOUTH EAST ARROW
292FaFALLING DIAGONAL CROSSING NORTH EAST ARROW
2930aRISING DIAGONAL CROSSING SOUTH EAST ARROW
2931aNORTH EAST ARROW CROSSING NORTH WEST ARROW
2932aNORTH WEST ARROW CROSSING NORTH EAST ARROW
2933aWAVE ARROW POINTING DIRECTLY RIGHT
2934aARROW POINTING RIGHTWARDS THEN CURVING UPWARDSfDOWNWARDS
2936aARROW POINTING DOWNWARDS THEN CURVING LEFTWARDSfRIGHTWARDS
2938aRIGHT-SIDE ARC CLOCKWISE ARROWaLEFT-SIDE ARC ANTICLOCKWISE ARROW
293AaTOP ARC ANTICLOCKWISE ARROWaBOTTOM ARC ANTICLOCKWISE ARROW
293CaTOP ARC CLOCKWISE ARROW WITH MINUScANTICLOCKWISE ARROW WITH PLUS
293EaLOWER RIGHT SEMICIRCULAR CLOCKWISE ARROW
293FaLOWER LEFT SEMICIRCULAR ANTICLOCKWISE ARROW
2940aANTICLOCKWISE CLOSED CIRCLE ARROWaCLOCKWISE CLOSED CIRCLE ARROW
2942aRIGHTWARDS ARROW ABOVE SHORT LEFTWARDS ARROW
2943aLEFTWARDS ARROW ABOVE SHORT RIGHTWARDS ARROW
2944aSHORT RIGHTWARDS ARROW ABOVE LEFTWARDS ARROW
2945aRIGHTWARDS ARROW WITH PLUS BELOWaLEFTWARDS ARROW WITH PLUS BELOW
2947aRIGHTWARDS ARROW THROUGH XaLEFT RIGHT ARROW THROUGH SMALL CIRCLE
2949aUPWARDS TWO-HEADED ARROW FROM SMALL CIRCLE
294AaLEFT BARB UP RIGHT BARB DOWN HARPOONcDOWN RIGHT BARB UP HARPOON
294CaUP BARB RIGHT DOWN BARB LEFT HARPOONcLEFT DOWN BARB RIGHT HARPOON
294EaLEFT BARB UP RIGHT BARB UP HARPOONaUP BARB RIGHT DOWN BARB RIGHT HARPOON
2950aLEFT BARB DOWN RIGHT BARB DOWN HARPOON
2951aUP BARB LEFT DOWN BARB LEFT HARPOONaLEFTWARDS HARPOON WITH BARB UP TO BAR
2953aRIGHTWARDS HARPOON WITH BARB UP TO BAR
2954aUPWARDS HARPOON WITH BARB RIGHT TO BAR
2955aDOWNWARDS HARPOON WITH BARB RIGHT TO BAR
2956aLEFTWARDS HARPOON WITH BARB DOWN TO BAR
2957aRIGHTWARDS HARPOON WITH BARB DOWN TO BAR
2958aUPWARDS HARPOON WITH BARB LEFT TO BAR
2959aDOWNWARDS HARPOON WITH BARB LEFT TO BAR
295AaLEFTWARDS HARPOON WITH BARB UP FROM BAR
295BaRIGHTWARDS HARPOON WITH BARB UP FROM BAR
295CaUPWARDS HARPOON WITH BARB RIGHT FROM BAR
295DaDOWNWARDS HARPOON WITH BARB RIGHT FROM BAR
295EaLEFTWARDS HARPOON WITH BARB DOWN FROM BAR
295FaRIGHTWARDS HARPOON WITH BARB DOWN FROM BAR
2960aUPWARDS HARPOON WITH BARB LEFT FROM BAR
2961aDOWNWARDS HARPOON WITH BARB LEFT FROM BAR
2962aLEFTWARDS HARPOON WITH BARB UP ABOVE LEFTWARDS HARPOON WITH BARB DOWN
2963aUPWARDS HARPOON WITH BARB LEFT BESIDE UPWARDS HARPOON WITH BARB RIGHT
2964aRIGHTWARDS HARPOON WITH BARB UP ABOVE RIGHTWARDS HARPOON WITH BARB DOWN
2965aDOWNWARDS HARPOON WITH BARB LEFT BESIDE DOWNWARDS HARPOON WITH BARB RIGHT
2966aLEFTWARDS HARPOON WITH BARB UP ABOVE RIGHTWARDS HARPOON WITH BARB UP
2967aLEFTWARDS HARPOON WITH BARB DOWN ABOVE RIGHTWARDS HARPOON WITH BARB DOWN
2968aRIGHTWARDS HARPOON WITH BARB UP ABOVE LEFTWARDS HARPOON WITH BARB UP
2969aRIGHTWARDS HARPOON WITH BARB DOWN ABOVE LEFTWARDS HARPOON WITH BARB DOWN
296AaLEFTWARDS HARPOON WITH BARB UP ABOVE LONG DASHeDOWN BELOW LONG DASH
296CaRIGHTWARDS HARPOON WITH BARB UP ABOVE LONG DASHeDOWN BELOW LONG DASH
296EaUPWARDS HARPOON WITH BARB LEFT BESIDE DOWNWARDS HARPOON WITH BARB RIGHT
296FaDOWNWARDS HARPOON WITH BARB LEFT BESIDE UPWARDS HARPOON WITH BARB RIGHT
2970aRIGHT DOUBLE ARROW WITH ROUNDED HEADaEQUALS SIGN ABOVE RIGHTWARDS ARROW
2972aTILDE OPERATOR ABOVE RIGHTWARDS ARROW
2973aLEFTWARDS ARROW ABOVE TILDE OPERATOR
2974aRIGHTWARDS ARROW ABOVE TILDE OPERATORdALMOST EQUAL TO
2976aLESS-THAN ABOVE LEFTWARDS ARROWaLEFTWARDS ARROW THROUGH LESS-THAN
2978aGREATER-THAN ABOVE RIGHTWARDS ARROWaSUBSET ABOVE RIGHTWARDS ARROW
297AaLEFTWARDS ARROW THROUGH SUBSETaSUPERSET ABOVE LEFTWARDS ARROW
297CaLEFT FISH TAILaRIGHT FISH TAILaUP FISH TAILaDOWN FISH TAIL
2980aTRIPLE VERTICAL BAR DELIMITERaZ NOTATION SPOTcTYPE COLON
2983aLEFT WHITE CURLY BRACKETaRIGHT WHITE CURLY BRACKETaLEFT WHITE PARENTHESIS
2986aRIGHT WHITE PARENTHESISaZ NOTATION LEFT IMAGE BRACKETcRIGHT IMAGE BRACKET
2989aZ NOTATION LEFT BINDING BRACKETcRIGHT BINDING BRACKET
298BaLEFT SQUARE BRACKET WITH UNDERBARaRIGHT SQUARE BRACKET WITH UNDERBAR
298DaLEFT SQUARE BRACKET WITH TICK IN TOP CORNER
298EaRIGHT SQUARE BRACKET WITH TICK IN BOTTOM CORNER
298FaLEFT SQUARE BRACKET WITH TICK IN BOTTOM CORNER
2990aRIGHT SQUARE BRACKET WITH TICK IN TOP CORNERaLEFT ANGLE BRACKET WITH DOT
2992aRIGHT ANGLE BRACKET WITH DOTaLEFT ARC LESS-THAN BRACKET
2994aRIGHT ARC GREATER-THAN BRACKETaDOUBLE LEFT ARC GREATER-THAN BRACKET
2996aDOUBLE RIGHT ARC LESS-THAN BRACKETaLEFT BLACK TORTOISE SHELL BRACKET
2998aRIGHT BLACK TORTOISE SHELL BRACKETaDOTTED FENCEaVERTICAL ZIGZAG LINE
299BaMEASURED ANGLE OPENING LEFTaRIGHT ANGLE VARIANT WITH SQUARE
299DaMEASURED RIGHT ANGLE WITH DOTaANGLE WITH S INSIDEaACUTE ANGLE
29A0aSPHERICAL ANGLE OPENING LEFTdUPaTURNED ANGLEaREVERSED ANGLE
29A4aANGLE WITH UNDERBARaREVERSED ANGLE WITH UNDERBARaOBLIQUE ANGLE OPENING UP
29A7aOBLIQUE ANGLE OPENING DOWN
29A8aMEASURED ANGLE WITH OPEN ARM ENDING IN ARROW POINTING UP AND RIGHTlLEFT
29AAaMEASURED ANGLE WITH OPEN ARM ENDING IN ARROW POINTING DOWN AND RIGHTlLEFT
29ACaMEASURED ANGLE WITH OPEN ARM ENDING IN ARROW POINTING RIGHT AND UP
29ADaMEASURED ANGLE WITH OPEN ARM ENDING IN ARROW POINTING LEFT AND UP
29AEaMEASURED ANGLE WITH OPEN ARM ENDING IN ARROW POINTING RIGHT AND DOWN
29AFaMEASURED ANGLE WITH OPEN ARM ENDING IN ARROW POINTING LEFT AND DOWN
29B0aREVERSED EMPTY SETaEMPTY SET WITH OVERBARdSMALL CIRCLE ABOVE
29B3aEMPTY SET WITH RIGHT ARROW ABOVEdLEFT ARROW ABOVE
29B5aCIRCLE WITH HORIZONTAL BARaCIRCLED VERTICAL BARbPARALLELbREVERSE SOLIDUS
29B9aCIRCLED PERPENDICULAR
29BAaCIRCLE DIVIDED BY HORIZONTAL BAR AND TOP HALF DIVIDED BY VERTICAL BAR
29BBaCIRCLE WITH SUPERIMPOSED XaCIRCLED ANTICLOCKWISE-ROTATED DIVISION SIGN
29BDaUP ARROW THROUGH CIRCLEaCIRCLED WHITE BULLETbBULLETbLESS-THAN
29C1aCIRCLED GREATER-THANaCIRCLE WITH SMALL CIRCLE TO THE RIGHT
29C3aCIRCLE WITH TWO HORIZONTAL STROKES TO THE RIGHT
29C4aSQUARED RISING DIAGONAL SLASHbFALLING DIAGONAL SLASHbASTERISK
29C7aSQUARED SMALL CIRCLEbSQUAREaTWO JOINED SQUARESaTRIANGLE WITH DOT ABOVE
29CBaTRIANGLE WITH UNDERBARaS IN TRIANGLEaTRIANGLE WITH SERIFS AT BOTTOM
29CEaRIGHT TRIANGLE ABOVE LEFT TRIANGLEaLEFT TRIANGLE BESIDE VERTICAL BAR
29D0aVERTICAL BAR BESIDE RIGHT TRIANGLEaBOWTIE WITH LEFT HALF BLACK
29D2aBOWTIE WITH RIGHT HALF BLACKaBLACK BOWTIEaTIMES WITH LEFT HALF BLACK
29D5aTIMES WITH RIGHT HALF BLACKaWHITE HOURGLASSaBLACK HOURGLASS
29D8aLEFT WIGGLY FENCEaRIGHT WIGGLY FENCEaLEFT DOUBLE WIGGLY FENCE
29DBaRIGHT DOUBLE WIGGLY FENCEaINCOMPLETE INFINITYaTIE OVER INFINITY
29DEaINFINITY NEGATED WITH VERTICAL BARaDOUBLE-ENDED MULTIMAP
29E0aSQUARE WITH CONTOURED OUTLINEaINCREASES ASaSHUFFLE PRODUCT
29E3aEQUALS SIGN AND SLANTED PARALLELf WITH TILDE ABOVE
29E5aIDENTICAL TO AND SLANTED PARALLELaGLEICH STARKaTHERMODYNAMIC
29E8aDOWN-POINTING TRIANGLE WITH LEFT HALF BLACKeRIGHT HALF BLACK
29EAaBLACK DIAMOND WITH DOWN ARROWbLOZENGEaWHITE CIRCLE WITH DOWN ARROW
29EDaBLACK CIRCLE WITH DOWN ARROWaERROR-BARRED WHITE SQUAREcBLACK SQUARE
29F0aERROR-BARRED WHITE DIAMONDcBLACK DIAMONDcWHITE CIRCLEcBLACK CIRCLE
29F4aRULE-DELAYEDaREVERSE SOLIDUS OPERATORaSOLIDUS WITH OVERBAR
29F7aREVERSE SOLIDUS WITH HORIZONTAL STROKEaBIG SOLIDUSbREVERSE SOLIDUS
29FAaDOUBLE PLUSaTRIPLE PLUSaLEFT-POINTING CURVED ANGLE BRACKET
29FDaRIGHT-POINTING CURVED ANGLE BRACKETaTINYaMINYaN-ARY CIRCLED DOT OPERATOR
2A01aN-ARY CIRCLED PLUS OPERATORdTIMES OPERATORcUNION OPERATOR WITH DOTfPLUS
2A05aN-ARY SQUARE INTERSECTION OPERATORdUNION OPERATOR
2A07aTWO LOGICAL AND OPERATORcOR OPERATORaN-ARY TIMES OPERATORaMODULO TWO SUM
2A0BaSUMMATION WITH INTEGRALaQUADRUPLE INTEGRAL OPERATORaFINITE PART INTEGRAL
2A0EaINTEGRAL WITH DOUBLE STROKEbAVERAGE WITH SLASHaCIRCULATION FUNCTION
2A11aANTICLOCKWISE INTEGRATION
2A12aLINE INTEGRATION WITH RECTANGULAR PATH AROUND POLE
2A13aLINE INTEGRATION WITH SEMICIRCULAR PATH AROUND POLE
2A14aLINE INTEGRATION NOT INCLUDING THE POLEaINTEGRAL AROUND A POINT OPERATOR
2A16aQUATERNION INTEGRAL OPERATORaINTEGRAL WITH LEFTWARDS ARROW WITH HOOK
2A18aINTEGRAL WITH TIMES SIGNcINTERSECTIONcUNIONcOVERBARcUNDERBARaJOIN
2A1EaLARGE LEFT TRIANGLE OPERATORaZ NOTATION SCHEMA COMPOSITIONdPIPING
2A21aZ NOTATION SCHEMA PROJECTIONaPLUS SIGN WITH SMALL CIRCLE ABOVE
2A23aPLUS SIGN WITH CIRCUMFLEX ACCENT ABOVEdTILDE ABOVEdDOT BELOWdTILDE BELOW
2A27aPLUS SIGN WITH SUBSCRIPT TWOdBLACK TRIANGLEaMINUS SIGN WITH COMMA ABOVE
2A2AaMINUS SIGN WITH DOT BELOWdFALLING DOTSdRISING DOTS
2A2DaPLUS SIGN IN LEFT HALF CIRCLEdRIGHT HALF CIRCLEaVECTOR OR CROSS PRODUCT
2A30aMULTIPLICATION SIGN WITH DOT ABOVEdUNDERBAR
2A32aSEMIDIRECT PRODUCT WITH BOTTOM CLOSEDaSMASH PRODUCT
2A34aMULTIPLICATION SIGN IN LEFT HALF CIRCLEdRIGHT HALF CIRCLE
2A36aCIRCLED MULTIPLICATION SIGN WITH CIRCUMFLEX ACCENT
2A37aMULTIPLICATION SIGN IN DOUBLE CIRCLEaCIRCLED DIVISION SIGN
2A39aPLUS SIGN IN TRIANGLEaMINUS SIGN IN TRIANGLE
2A3BaMULTIPLICATION SIGN IN TRIANGLEaINTERIOR PRODUCT
2A3DaRIGHTHAND INTERIOR PRODUCTaZ NOTATION RELATIONAL COMPOSITION
2A3FaAMALGAMATION OR COPRODUCTaINTERSECTION WITH DOTaUNION WITH MINUS SIGN
2A42aUNION WITH OVERBARaINTERSECTION WITH OVERBARcLOGICAL AND
2A45aUNION WITH LOGICAL ORbABOVE INTERSECTIONaINTERSECTION ABOVE UNION
2A48aUNION ABOVE BAR ABOVE INTERSECTIONaINTERSECTION ABOVE BAR ABOVE UNION
2A4AaUNION BESIDE AND JOINED WITH UNION
2A4BaINTERSECTION BESIDE AND JOINED WITH INTERSECTIONaCLOSED UNION WITH SERIFS
2A4DaCLOSED INTERSECTION WITH SERIFSaDOUBLE SQUARE INTERSECTIONcUNION
2A50aCLOSED UNION WITH SERIFS AND SMASH PRODUCTaLOGICAL AND WITH DOT ABOVE
2A52aLOGICAL OR WITH DOT ABOVEaDOUBLE LOGICAL ANDcOR
2A55aTWO INTERSECTING LOGICAL ANDdORaSLOPING LARGE ORcAND
2A59aLOGICAL OR OVERLAPPING LOGICAL ANDbAND WITH MIDDLE STEM
2A5BaLOGICAL OR WITH MIDDLE STEMbAND WITH HORIZONTAL DASH
2A5DaLOGICAL OR WITH HORIZONTAL DASHbAND WITH DOUBLE OVERBARdUNDERBAR
2A60aLOGICAL AND WITH DOUBLE UNDERBARaSMALL VEE WITH UNDERBAR
2A62aLOGICAL OR WITH DOUBLE OVERBAReUNDERBARaZ NOTATION DOMAIN ANTIRESTRICTION
2A65aZ NOTATION RANGE ANTIRESTRICTIONaEQUALS SIGN WITH DOT BELOW
2A67aIDENTICAL WITH DOT ABOVE
2A68aTRIPLE HORIZONTAL BAR WITH DOUBLE VERTICAL STROKEeTRIPLE VERTICAL STROKE
2A6AaTILDE OPERATOR WITH DOT ABOVEdRISING DOTSaSIMILAR MINUS SIMILAR
2A6DaCONGRUENT WITH DOT ABOVEaEQUALS WITH ASTERISK
2A6FaALMOST EQUAL TO WITH CIRCUMFLEX ACCENTaAPPROXIMATELY EQUAL OR EQUAL TO
2A71aEQUALS SIGN ABOVE PLUS SIGNaPLUS SIGN ABOVE EQUALS SIGN
2A73aEQUALS SIGN ABOVE TILDE OPERATORaDOUBLE COLON EQUAL
2A75aTWO CONSECUTIVE EQUALS SIGNSaTHREE CONSECUTIVE EQUALS SIGNS
2A77aEQUALS SIGN WITH TWO DOTS ABOVE AND TWO DOTS BELOW
2A78aEQUIVALENT WITH FOUR DOTS ABOVEaLESS-THAN WITH CIRCLE INSIDE
2A7AaGREATER-THAN WITH CIRCLE INSIDEaLESS-THAN WITH QUESTION MARK ABOVE
2A7CaGREATER-THAN WITH QUESTION MARK ABOVEaLESS-THAN OR SLANTED EQUAL TO
2A7EaGREATER-THAN OR SLANTED EQUAL TO
2A7FaLESS-THAN OR SLANTED EQUAL TO WITH DOT INSIDE
2A80aGREATER-THAN OR SLANTED EQUAL TO WITH DOT INSIDE
2A81aLESS-THAN OR SLANTED EQUAL TO WITH DOT ABOVE
2A82aGREATER-THAN OR SLANTED EQUAL TO WITH DOT ABOVE
2A83aLESS-THAN OR SLANTED EQUAL TO WITH DOT ABOVE RIGHT
2A84aGREATER-THAN OR SLANTED EQUAL TO WITH DOT ABOVE LEFT
2A85aLESS-THAN OR APPROXIMATEaGREATER-THAN OR APPROXIMATE
2A87aLESS-THAN AND SINGLE-LINE NOT EQUAL TO
2A88aGREATER-THAN AND SINGLE-LINE NOT EQUAL TOaLESS-THAN AND NOT APPROXIMATE
2A8AaGREATER-THAN AND NOT APPROXIMATE
2A8BaLESS-THAN ABOVE DOUBLE-LINE EQUAL ABOVE GREATER-THAN
2A8CaGREATER-THAN ABOVE DOUBLE-LINE EQUAL ABOVE LESS-THAN
2A8DaLESS-THAN ABOVE SIMILAR OR EQUALaGREATER-THAN ABOVE SIMILAR OR EQUAL
2A8FaLESS-THAN ABOVE SIMILAR ABOVE GREATER-THAN
2A90aGREATER-THAN ABOVE SIMILAR ABOVE LESS-THAN
2A91aLESS-THAN ABOVE GREATER-THAN ABOVE DOUBLE-LINE EQUAL
2A92aGREATER-THAN ABOVE LESS-THAN ABOVE DOUBLE-LINE EQUAL
2A93aLESS-THAN ABOVE SLANTED EQUAL ABOVE GREATER-THAN ABOVE SLANTED EQUAL
2A94aGREATER-THAN ABOVE SLANTED EQUAL ABOVE LESS-THAN ABOVE SLANTED EQUAL
2A95aSLANTED EQUAL TO OR LESS-THANeGREATER-THANeLESS-THAN WITH DOT INSIDE
2A98aSLANTED EQUAL TO OR GREATER-THAN WITH DOT INSIDE
2A99aDOUBLE-LINE EQUAL TO OR LESS-THANfGREATER-THAN
2A9BaDOUBLE-LINE SLANTED EQUAL TO OR LESS-THANgGREATER-THAN
2A9DaSIMILAR OR LESS-THANcGREATER-THANbABOVE LESS-THAN ABOVE EQUALS SIGN
2AA0aSIMILAR ABOVE GREATER-THAN ABOVE EQUALS SIGNaDOUBLE NESTED LESS-THAN
2AA2aDOUBLE NESTED GREATER-THANcLESS-THAN WITH UNDERBAR
2AA4aGREATER-THAN OVERLAPPING LESS-THANcBESIDE LESS-THAN
2AA6aLESS-THAN CLOSED BY CURVEaGREATER-THAN CLOSED BY CURVE
2AA8aLESS-THAN CLOSED BY CURVE ABOVE SLANTED EQUAL
2AA9aGREATER-THAN CLOSED BY CURVE ABOVE SLANTED EQUALaSMALLER THANaLARGER THAN
2AACaSMALLER THAN OR EQUAL TOaLARGER THAN OR EQUAL TO
2AAEaEQUALS SIGN WITH BUMPY ABOVEaPRECEDES ABOVE SINGLE-LINE EQUALS SIGN
2AB0aSUCCEEDS ABOVE SINGLE-LINE EQUALS SIGN
2AB1aPRECEDES ABOVE SINGLE-LINE NOT EQUAL TO
2AB2aSUCCEEDS ABOVE SINGLE-LINE NOT EQUAL TOaPRECEDES ABOVE EQUALS SIGN
2AB4aSUCCEEDS ABOVE EQUALS SIGNaPRECEDES ABOVE NOT EQUAL TO
2AB6aSUCCEEDS ABOVE NOT EQUAL TOaPRECEDES ABOVE ALMOST EQUAL TO
2AB8aSUCCEEDS ABOVE ALMOST EQUAL TOaPRECEDES ABOVE NOT ALMOST EQUAL TO
2ABAaSUCCEEDS ABOVE NOT ALMOST EQUAL TOaDOUBLE PRECEDESbSUCCEEDS
2ABDaSUBSET WITH DOTaSUPERSET WITH DOTaSUBSET WITH PLUS SIGN BELOW
2AC0aSUPERSET WITH PLUS SIGN BELOWaSUBSET WITH MULTIPLICATION SIGN BELOW
2AC2aSUPERSET WITH MULTIPLICATION SIGN BELOW
2AC3aSUBSET OF OR EQUAL TO WITH DOT ABOVE
2AC4aSUPERSET OF OR EQUAL TO WITH DOT ABOVEaSUBSET OF ABOVE EQUALS SIGN
2AC6aSUPERSET OF ABOVE EQUALS SIGNaSUBSET OF ABOVE TILDE OPERATOR
2AC8aSUPERSET OF ABOVE TILDE OPERATORaSUBSET OF ABOVE ALMOST EQUAL TO
2ACAaSUPERSET OF ABOVE ALMOST EQUAL TOaSUBSET OF ABOVE NOT EQUAL TO
2ACCaSUPERSET OF ABOVE NOT EQUAL TOaSQUARE LEFT OPEN BOX OPERATOR
2ACEaSQUARE RIGHT OPEN BOX OPERATORaCLOSED SUBSETbSUPERSETbSUBSET OR EQUAL TO
2AD2aCLOSED SUPERSET OR EQUAL TOaSUBSET ABOVE SUPERSETaSUPERSET ABOVE SUBSET
2AD5aSUBSET ABOVE SUBSETaSUPERSET ABOVE SUPERSETbBESIDE SUBSET
2AD8aSUPERSET BESIDE AND JOINED BY DASH WITH SUBSET
2AD9aELEMENT OF OPENING DOWNWARDSaPITCHFORK WITH TEE TOP
2ADBaTRANSVERSAL INTERSECTIONaFORKINGaNONFORKINGaSHORT LEFT TACKbDOWN TACK
2AE0aSHORT UP TACKaPERPENDICULAR WITH SaVERTICAL BAR TRIPLE RIGHT TURNSTILE
2AE3aDOUBLE VERTICAL BAR LEFT TURNSTILEaVERTICAL BAR DOUBLE LEFT TURNSTILE
2AE5aDOUBLE VERTICAL BAR DOUBLE LEFT TURNSTILE
2AE6aLONG DASH FROM LEFT MEMBER OF DOUBLE VERTICAL
2AE7aSHORT DOWN TACK WITH OVERBARbUP TACK WITH UNDERBARdABOVE SHORT DOWN TACK
2AEAaDOUBLE DOWN TACKbUP TACKbSTROKE NOT SIGNaREVERSED DOUBLE STROKE NOT SIGN
2AEEaDOES NOT DIVIDE WITH REVERSED NEGATION SLASH
2AEFaVERTICAL LINE WITH CIRCLE ABOVEeBELOWaDOWN TACK WITH CIRCLE BELOW
2AF2aPARALLEL WITH HORIZONTAL STROKEcTILDE OPERATOR
2AF4aTRIPLE VERTICAL BAR BINARY RELATIONdWITH HORIZONTAL STROKEbCOLON OPERATOR
2AF7aTRIPLE NESTED LESS-THANcGREATER-THAN
2AF9aDOUBLE-LINE SLANTED LESS-THAN OR EQUAL TOdGREATER-THAN OR EQUAL TO
2AFBaTRIPLE SOLIDUS BINARY RELATIONaLARGE TRIPLE VERTICAL BAR OPERATOR
2AFDaDOUBLE SOLIDUS OPERATORaWHITE VERTICAL BARaN-ARY WHITE VERTICAL BAR
2B00aNORTH EAST WHITE ARROWbWEST WHITE ARROWaSOUTH EAST WHITE ARROW
2B03aSOUTH WEST WHITE ARROWaLEFT RIGHT WHITE ARROWaLEFTWARDS BLACK ARROW
2B06aUPWARDS BLACK ARROWaDOWNWARDS BLACK ARROWaNORTH EAST BLACK ARROW
2B09aNORTH WEST BLACK ARROWaSOUTH EAST BLACK ARROWbWEST BLACK ARROW
2B0CaLEFT RIGHT BLACK ARROWaUP DOWN BLACK ARROW
2B0EaRIGHTWARDS ARROW WITH TIP DOWNWARDSeUPWARDS
2B10aLEFTWARDS ARROW WITH TIP DOWNWARDSeUPWARDSaSQUARE WITH TOP HALF BLACK
2B13aSQUARE WITH BOTTOM HALF BLACKcUPPER RIGHT DIAGONAL HALF BLACK
2B15aSQUARE WITH LOWER LEFT DIAGONAL HALF BLACKaDIAMOND WITH LEFT HALF BLACK
2B17aDIAMOND WITH RIGHT HALF BLACKcTOP HALF BLACKcBOTTOM HALF BLACK
2B1AaDOTTED SQUAREaBLACK LARGE SQUAREaWHITE LARGE SQUARE
2B1DaBLACK VERY SMALL SQUAREaWHITE VERY SMALL SQUAREaBLACK PENTAGON
2B20aWHITE PENTAGONbHEXAGONaBLACK HEXAGONaHORIZONTAL BLACK HEXAGON
2B24aBLACK LARGE CIRCLEbMEDIUM DIAMONDaWHITE MEDIUM DIAMOND
2B27aBLACK MEDIUM LOZENGEaWHITE MEDIUM LOZENGEaBLACK SMALL DIAMONDcLOZENGE
2B2BaWHITE SMALL LOZENGEaBLACK HORIZONTAL ELLIPSEaWHITE HORIZONTAL ELLIPSE
2B2EaBLACK VERTICAL ELLIPSEaWHITE VERTICAL ELLIPSE
2B30aLEFT ARROW WITH SMALL CIRCLEaTHREE LEFTWARDS ARROWS
2B32aLEFT ARROW WITH CIRCLED PLUSaLONG LEFTWARDS SQUIGGLE ARROW
2B34aLEFTWARDS TWO-HEADED ARROW WITH VERTICAL STROKEfDOUBLE VERTICAL STROKE
2B36aLEFTWARDS TWO-HEADED ARROW FROM BARdTRIPLE DASH ARROW
2B38aLEFTWARDS ARROW WITH DOTTED STEMdTAIL WITH VERTICAL STROKE
2B3AaLEFTWARDS ARROW WITH TAIL WITH DOUBLE VERTICAL STROKE
2B3BaLEFTWARDS TWO-HEADED ARROW WITH TAILg WITH VERTICAL STROKE
2B3DaLEFTWARDS TWO-HEADED ARROW WITH TAIL WITH DOUBLE VERTICAL STROKE
2B3EaLEFTWARDS ARROW THROUGH XaWAVE ARROW POINTING DIRECTLY LEFT
2B40aEQUALS SIGN ABOVE LEFTWARDS ARROW
2B41aREVERSE TILDE OPERATOR ABOVE LEFTWARDS ARROW
2B42aLEFTWARDS ARROW ABOVE REVERSE ALMOST EQUAL TO
2B43aRIGHTWARDS ARROW THROUGH GREATER-THANdSUPERSETaLEFTWARDS QUADRUPLE ARROW
2B46aRIGHTWARDS QUADRUPLE ARROWaREVERSE TILDE OPERATOR ABOVE RIGHTWARDS ARROW
2B48aRIGHTWARDS ARROW ABOVE REVERSE ALMOST EQUAL TO
2B49aTILDE OPERATOR ABOVE LEFTWARDS ARROW
2B4AaLEFTWARDS ARROW ABOVE ALMOST EQUAL TOdREVERSE TILDE OPERATOR
2B4CaRIGHTWARDS ARROW ABOVE REVERSE TILDE OPERATOR
2B4DaDOWNWARDS TRIANGLE-HEADED ZIGZAG ARROWaSHORT SLANTED NORTH ARROW
2B4FaSHORT BACKSLANTED SOUTH ARROWaWHITE MEDIUM STARaBLACK SMALL STAR
2B52aWHITE SMALL STARaBLACK RIGHT-POINTING PENTAGON
2B54aWHITE RIGHT-POINTING PENTAGONaHEAVY LARGE CIRCLEbOVAL WITH OVAL INSIDE
2B57aHEAVY CIRCLE WITH CIRCLE INSIDEbCIRCLEcD SALTIRE
2B5AaSLANTED NORTH ARROW WITH HOOKED HEAD
2B5BaBACKSLANTED SOUTH ARROW WITH HOOKED TAIL
2B5CaSLANTED NORTH ARROW WITH HORIZONTAL TAIL
2B5DaBACKSLANTED SOUTH ARROW WITH HORIZONTAL TAIL
2B5EaBENT ARROW POINTING DOWNWARDS THEN NORTH EAST
2B5FaSHORT BENT ARROW POINTING DOWNWARDS THEN NORTH EAST
2B60aLEFTWARDS TRIANGLE-HEADED ARROWaUPWARDS TRIANGLE-HEADED ARROW
2B62aRIGHTWARDS TRIANGLE-HEADED ARROWaDOWNWARDS TRIANGLE-HEADED ARROW
2B64aLEFT RIGHT TRIANGLE-HEADED ARROWaUP DOWN TRIANGLE-HEADED ARROW
2B66aNORTH WEST TRIANGLE-HEADED ARROWbEAST TRIANGLE-HEADED ARROW
2B68aSOUTH EAST TRIANGLE-HEADED ARROWbWEST TRIANGLE-HEADED ARROW
2B6AaLEFTWARDS TRIANGLE-HEADED DASHED ARROW
2B6BaUPWARDS TRIANGLE-HEADED DASHED ARROW
2B6CaRIGHTWARDS TRIANGLE-HEADED DASHED ARROW
2B6DaDOWNWARDS TRIANGLE-HEADED DASHED ARROW
2B6EaCLOCKWISE TRIANGLE-HEADED OPEN CIRCLE ARROW
2B6FaANTICLOCKWISE TRIANGLE-HEADED OPEN CIRCLE ARROW
2B70aLEFTWARDS TRIANGLE-HEADED ARROW TO BAR
2B71aUPWARDS TRIANGLE-HEADED ARROW TO BAR
2B72aRIGHTWARDS TRIANGLE-HEADED ARROW TO BAR
2B73aDOWNWARDS TRIANGLE-HEADED ARROW TO BAR
2B76aNORTH WEST TRIANGLE-HEADED ARROW TO BARbEAST TRIANGLE-HEADED ARROW TO BAR
2B78aSOUTH EAST TRIANGLE-HEADED ARROW TO BARbWEST TRIANGLE-HEADED ARROW TO BAR
2B7AaLEFTWARDS TRIANGLE-HEADED ARROW WITH DOUBLE HORIZONTAL STROKE
2B7BaUPWARDS TRIANGLE-HEADED ARROW WITH DOUBLE HORIZONTAL STROKE
2B7CaRIGHTWARDS TRIANGLE-HEADED ARROW WITH DOUBLE HORIZONTAL STROKE
2B7DaDOWNWARDS TRIANGLE-HEADED ARROW WITH DOUBLE HORIZONTAL STROKE
2B7EaHORIZONTAL TAB KEYaVERTICAL TAB KEY
2B80aLEFTWARDS TRIANGLE-HEADED ARROW OVER RIGHTWARDS TRIANGLE-HEADED ARROW
2B81aUPWARDS TRIANGLE-HEADED ARROW LEFTWARDS OF DOWNWARDS TRIANGLE-HEADED ARROW
2B82aRIGHTWARDS TRIANGLE-HEADED ARROW OVER LEFTWARDS TRIANGLE-HEADED ARROW
2B83aDOWNWARDS TRIANGLE-HEADED ARROW LEFTWARDS OF UPWARDS TRIANGLE-HEADED ARROW
2B84aLEFTWARDS TRIANGLE-HEADED PAIRED ARROWS
2B85aUPWARDS TRIANGLE-HEADED PAIRED ARROWS
2B86aRIGHTWARDS TRIANGLE-HEADED PAIRED ARROWS
2B87aDOWNWARDS TRIANGLE-HEADED PAIRED ARROWS
2B88aLEFTWARDS BLACK CIRCLED WHITE ARROWaUPWARDS BLACK CIRCLED WHITE ARROW
2B8AaRIGHTWARDS BLACK CIRCLED WHITE ARROWaDOWNWARDS BLACK CIRCLED WHITE ARROW
2B8CaANTICLOCKWISE TRIANGLE-HEADED RIGHT U-SHAPED ARROWdBOTTOM U-SHAPED ARROW
2B8EaANTICLOCKWISE TRIANGLE-HEADED LEFT U-SHAPED ARROWdTOP U-SHAPED ARROW
2B90aRETURN LEFTbRIGHTaNEWLINE LEFTbRIGHT
2B94aFOUR CORNER ARROWS CIRCLING ANTICLOCKWISEaRIGHTWARDS BLACK ARROW
2B97aSYMBOL FOR TYPE A ELECTRONICS
2B98aTHREE-D TOP-LIGHTED LEFTWARDS EQUILATERAL ARROWHEAD
2B99aTHREE-D RIGHT-LIGHTED UPWARDS EQUILATERAL ARROWHEAD
2B9AaTHREE-D TOP-LIGHTED RIGHTWARDS EQUILATERAL ARROWHEAD
2B9BaTHREE-D LEFT-LIGHTED DOWNWARDS EQUILATERAL ARROWHEAD
2B9CaBLACK LEFTWARDS EQUILATERAL ARROWHEADbUPWARDS EQUILATERAL ARROWHEAD
2B9EaBLACK RIGHTWARDS EQUILATERAL ARROWHEADbDOWNWARDS EQUILATERAL ARROWHEAD
2BA0aDOWNWARDS TRIANGLE-HEADED ARROW WITH LONG TIP LEFTWARDShRIGHTWARDS
2BA2aUPWARDS TRIANGLE-HEADED ARROW WITH LONG TIP LEFTWARDShRIGHTWARDS
2BA4aLEFTWARDS TRIANGLE-HEADED ARROW WITH LONG TIP UPWARDS
2BA5aRIGHTWARDS TRIANGLE-HEADED ARROW WITH LONG TIP UPWARDS
2BA6aLEFTWARDS TRIANGLE-HEADED ARROW WITH LONG TIP DOWNWARDS
2BA7aRIGHTWARDS TRIANGLE-HEADED ARROW WITH LONG TIP DOWNWARDS
2BA8aBLACK CURVED DOWNWARDS AND LEFTWARDS ARROWeRIGHTWARDS ARROW
2BAAaBLACK CURVED UPWARDS AND LEFTWARDS ARROWeRIGHTWARDS ARROW
2BACaBLACK CURVED LEFTWARDS AND UPWARDS ARROWcRIGHTWARDS AND UPWARDS ARROW
2BAEaBLACK CURVED LEFTWARDS AND DOWNWARDS ARROWcRIGHTWARDS AND DOWNWARDS ARROW
2BB0aRIBBON ARROW DOWN LEFTdRIGHTcUP LEFTdRIGHTcLEFT UPcRIGHT UPcLEFT DOWN
2BB7aRIBBON ARROW RIGHT DOWNaUPWARDS WHITE ARROW FROM BAR WITH HORIZONTAL BAR
2BB9aUP ARROWHEAD IN A RECTANGLE BOXaOVERLAPPING WHITE SQUARES
2BBBaOVERLAPPING WHITE AND BLACK SQUARESbBLACK SQUARESaBALLOT BOX WITH LIGHT X
2BBEaCIRCLED XbBOLD XaBLACK SQUARE CENTREDbDIAMOND CENTRED
2BC2aTURNED BLACK PENTAGONaHORIZONTAL BLACK OCTAGONaBLACK OCTAGON
2BC5aBLACK MEDIUM UP-POINTING TRIANGLE CENTREDcDOWN-POINTING TRIANGLE CENTRED
2BC7aBLACK MEDIUM LEFT-POINTING TRIANGLE CENTRED
2BC8aBLACK MEDIUM RIGHT-POINTING TRIANGLE CENTREDaNEPTUNE FORM TWO
2BCAaTOP HALF BLACK CIRCLEaBOTTOM HALF BLACK CIRCLE
2BCCaLIGHT FOUR POINTED BLACK CUSPaROTATED LIGHT FOUR POINTED BLACK CUSP
2BCEaWHITE FOUR POINTED CUSPaROTATED WHITE FOUR POINTED CUSP
2BD0aSQUARE POSITION INDICATORaUNCERTAINTY SIGNaGROUP MARKaPLUTO FORM TWO
2BD4aPLUTO FORM THREEcFOURcFIVEaTRANSPLUTOaPROSERPINAaASTRAEAaHYGIEAaPHOLUS
2BDCaNESSUSaWHITE MOON SELENAaBLACK DIAMOND ON CROSSaTRUE LIGHT MOON ARTA
2BE0aCUPIDOaHADESaZEUSaKRONOSaAPOLLONaADMETOSaVULCANUSaPOSEIDON
2BE8aLEFT HALF BLACK STARaRIGHT HALF BLACK STARaSTAR WITH LEFT HALF BLACK
2BEBaSTAR WITH RIGHT HALF BLACK
2BECaLEFTWARDS TWO-HEADED ARROW WITH TRIANGLE ARROWHEADS
2BEDaUPWARDS TWO-HEADED ARROW WITH TRIANGLE ARROWHEADS
2BEEaRIGHTWARDS TWO-HEADED ARROW WITH TRIANGLE ARROWHEADS
2BEFaDOWNWARDS TWO-HEADED ARROW WITH TRIANGLE ARROWHEADSaERIS FORM ONEcTWO
2BF2aSEDNAaRUSSIAN ASTROLOGICAL SYMBOL VIGINTILEdNOVILEdQUINTILEdBINOVILE
2BF7aRUSSIAN ASTROLOGICAL SYMBOL SENTAGONdTREDECILE
2BF9aEQUALS SIGN WITH INFINITY BELOWaUNITED SYMBOLaSEPARATED SYMBOL
2BFCaDOUBLED SYMBOLaPASSED SYMBOLaREVERSED RIGHT ANGLE
2BFFaHELLSCHREIBER PAUSE SYMBOLaGLAGOLITIC CAPITAL LETTER AZUdBUKYdVEDE
2C03aGLAGOLITIC CAPITAL LETTER GLAGOLIdDOBROdYESTUdZHIVETEdDZELOdZEMLJAdIZHE
2C0AaGLAGOLITIC CAPITAL LETTER INITIAL IZHEdIdDJERVIdKAKOdLJUDIJEdMYSLITE
2C10aGLAGOLITIC CAPITAL LETTER NASHIdONUdPOKOJIdRITSIdSLOVOdTVRIDOdUKUdFRITU
2C18aGLAGOLITIC CAPITAL LETTER HERUdOTUdPEdSHTAdTSIdCHRIVIdSHAdYERUdYERIdYATI
2C22aGLAGOLITIC CAPITAL LETTER SPIDERY HAdYUdSMALL YUSf WITH TAILdYO
2C27aGLAGOLITIC CAPITAL LETTER IOTATED SMALL YUSdBIG YUSdIOTATED BIG YUSdFITA
2C2BaGLAGOLITIC CAPITAL LETTER IZHITSAdSHTAPICdTROKUTASTI AdLATINATE MYSLITE
2C2FaGLAGOLITIC CAPITAL LETTER CAUDATE CHRIVIbSMALL LETTER AZUdBUKYdVEDE
2C33aGLAGOLITIC SMALL LETTER GLAGOLIdDOBROdYESTUdZHIVETEdDZELOdZEMLJAdIZHE
2C3AaGLAGOLITIC SMALL LETTER INITIAL IZHEdIdDJERVIdKAKOdLJUDIJEdMYSLITEdNASHI
2C41aGLAGOLITIC SMALL LETTER ONUdPOKOJIdRITSIdSLOVOdTVRIDOdUKUdFRITUdHERUdOTU
2C4AaGLAGOLITIC SMALL LETTER PEdSHTAdTSIdCHRIVIdSHAdYERUdYERIdYATIdSPIDERY HA
2C53aGLAGOLITIC SMALL LETTER YUdSMALL YUSf WITH TAILdYOdIOTATED SMALL YUS
2C58aGLAGOLITIC SMALL LETTER BIG YUSdIOTATED BIG YUSdFITAdIZHITSAdSHTAPIC
2C5DaGLAGOLITIC SMALL LETTER TROKUTASTI AdLATINATE MYSLITEdCAUDATE CHRIVI
2C60aLATIN CAPITAL LETTER L WITH DOUBLE BARbSMALL LETTER L WITH DOUBLE BAR
2C62aLATIN CAPITAL LETTER L WITH MIDDLE TILDEdP WITH STROKEdR WITH TAIL
2C65aLATIN SMALL LETTER A WITH STROKEdT WITH DIAGONAL STROKE
2C67aLATIN CAPITAL LETTER H WITH DESCENDERbSMALL LETTER H WITH DESCENDER
2C69aLATIN CAPITAL LETTER K WITH DESCENDERbSMALL LETTER K WITH DESCENDER
2C6BaLATIN CAPITAL LETTER Z WITH DESCENDERbSMALL LETTER Z WITH DESCENDER
2C6DaLATIN CAPITAL LETTER ALPHAdM WITH HOOKdTURNED AfLPHA
2C71aLATIN SMALL LETTER V WITH RIGHT HOOKbCAPITAL LETTER W WITH HOOK
2C73aLATIN SMALL LETTER W WITH HOOKdV WITH CURLbCAPITAL LETTER HALF H
2C76aLATIN SMALL LETTER HALF HdTAILLESS PHIdE WITH NOTCHdTURNED R WITH TAIL
2C7AaLATIN SMALL LETTER O WITH LOW RING INSIDEbLETTER SMALL CAPITAL TURNED E
2C7CaLATIN SUBSCRIPT SMALL LETTER JaMODIFIER LETTER CAPITAL V
2C7EaLATIN CAPITAL LETTER S WITH SWASH TAILdZ WITH SWASH TAIL
2C80aCOPTIC CAPITAL LETTER ALFAbSMALL LETTER ALFAbCAPITAL LETTER VIDA
2C83aCOPTIC SMALL LETTER VIDAbCAPITAL LETTER GAMMAbSMALL LETTER GAMMA
2C86aCOPTIC CAPITAL LETTER DALDAbSMALL LETTER DALDAbCAPITAL LETTER EIE
2C89aCOPTIC SMALL LETTER EIEbCAPITAL LETTER SOUbSMALL LETTER SOU
2C8CaCOPTIC CAPITAL LETTER ZATAbSMALL LETTER ZATAbCAPITAL LETTER HATE
2C8FaCOPTIC SMALL LETTER HATEbCAPITAL LETTER THETHEbSMALL LETTER THETHE
2C92aCOPTIC CAPITAL LETTER IAUDAbSMALL LETTER IAUDAbCAPITAL LETTER KAPA
2C95aCOPTIC SMALL LETTER KAPAbCAPITAL LETTER LAULAbSMALL LETTER LAULA
2C98aCOPTIC CAPITAL LETTER MIbSMALL LETTER MIbCAPITAL LETTER NI
2C9BaCOPTIC SMALL LETTER NIbCAPITAL LETTER KSIbSMALL LETTER KSI
2C9EaCOPTIC CAPITAL LETTER ObSMALL LETTER ObCAPITAL LETTER PIbSMALL LETTER PI
2CA2aCOPTIC CAPITAL LETTER RObSMALL LETTER RObCAPITAL LETTER SIMA
2CA5aCOPTIC SMALL LETTER SIMAbCAPITAL LETTER TAUbSMALL LETTER TAU
2CA8aCOPTIC CAPITAL LETTER UAbSMALL LETTER UAbCAPITAL LETTER FI
2CABaCOPTIC SMALL LETTER FIbCAPITAL LETTER KHIbSMALL LETTER KHI
2CAEaCOPTIC CAPITAL LETTER PSIbSMALL LETTER PSIbCAPITAL LETTER OOU
2CB1aCOPTIC SMALL LETTER OOUbCAPITAL LETTER DIALECT-P ALEF
2CB3aCOPTIC SMALL LETTER DIALECT-P ALEFbCAPITAL LETTER OLD COPTIC AIN
2CB5aCOPTIC SMALL LETTER OLD COPTIC AINbCAPITAL LETTER CRYPTOGRAMMIC EIE
2CB7aCOPTIC SMALL LETTER CRYPTOGRAMMIC EIEbCAPITAL LETTER DIALECT-P KAPA
2CB9aCOPTIC SMALL LETTER DIALECT-P KAPAbCAPITAL LETTER DIALECT-P NI
2CBBaCOPTIC SMALL LETTER DIALECT-P NIbCAPITAL LETTER CRYPTOGRAMMIC NI
2CBDaCOPTIC SMALL LETTER CRYPTOGRAMMIC NIbCAPITAL LETTER OLD COPTIC OOU
2CBFaCOPTIC SMALL LETTER OLD COPTIC OOUbCAPITAL LETTER SAMPI
2CC1aCOPTIC SMALL LETTER SAMPIbCAPITAL LETTER CROSSED SHEI
2CC3aCOPTIC SMALL LETTER CROSSED SHEIbCAPITAL LETTER OLD COPTIC SHEI
2CC5aCOPTIC SMALL LETTER OLD COPTIC SHEIbCAPITAL LETTER OLD COPTIC ESH
2CC7aCOPTIC SMALL LETTER OLD COPTIC ESHbCAPITAL LETTER AKHMIMIC KHEI
2CC9aCOPTIC SMALL LETTER AKHMIMIC KHEIbCAPITAL LETTER DIALECT-P HORI
2CCBaCOPTIC SMALL LETTER DIALECT-P HORIbCAPITAL LETTER OLD COPTIC HORI
2CCDaCOPTIC SMALL LETTER OLD COPTIC HORIbCAPITAL LETTER OLD COPTIC HA
2CCFaCOPTIC SMALL LETTER OLD COPTIC HAbCAPITAL LETTER L-SHAPED HA
2CD1aCOPTIC SMALL LETTER L-SHAPED HAbCAPITAL LETTER OLD COPTIC HEI
2CD3aCOPTIC SMALL LETTER OLD COPTIC HEIbCAPITAL LETTER OLD COPTIC HAT
2CD5aCOPTIC SMALL LETTER OLD COPTIC HATbCAPITAL LETTER OLD COPTIC GANGIA
2CD7aCOPTIC SMALL LETTER OLD COPTIC GANGIAbCAPITAL LETTER OLD COPTIC DJA
2CD9aCOPTIC SMALL LETTER OLD COPTIC DJAbCAPITAL LETTER OLD COPTIC SHIMA
2CDBaCOPTIC SMALL LETTER OLD COPTIC SHIMAbCAPITAL LETTER OLD NUBIAN SHIMA
2CDDaCOPTIC SMALL LETTER OLD NUBIAN SHIMAbCAPITAL LETTER OLD NUBIAN NGI
2CDFaCOPTIC SMALL LETTER OLD NUBIAN NGIbCAPITAL LETTER OLD NUBIAN NYI
2CE1aCOPTIC SMALL LETTER OLD NUBIAN NYIbCAPITAL LETTER OLD NUBIAN WAU
2CE3aCOPTIC SMALL LETTER OLD NUBIAN WAUbSYMBOL KAIcMI ROcPI ROcSTAUROScTAU RO
2CE9aCOPTIC SYMBOL KHI ROcSHIMA SIMAbCAPITAL LETTER CRYPTOGRAMMIC SHEI
2CECaCOPTIC SMALL LETTER CRYPTOGRAMMIC SHEI
2CEDaCOPTIC CAPITAL LETTER CRYPTOGRAMMIC GANGIA
2CEEaCOPTIC SMALL LETTER CRYPTOGRAMMIC GANGIAbCOMBINING NI ABOVE
2CF0aCOPTIC COMBINING SPIRITUS ASPERdLENISbCAPITAL LETTER BOHAIRIC KHEI
2CF3aCOPTIC SMALL LETTER BOHAIRIC KHEI
2CF9aCOPTIC OLD NUBIAN FULL STOPdDIRECT QUESTION MARKdINDIRECT QUESTION MARK
2CFCaCOPTIC OLD NUBIAN VERSE DIVIDERbFRACTION ONE HALFbFULL STOP
2CFFaCOPTIC MORPHOLOGICAL DIVIDERaGEORGIAN SMALL LETTER ANdBANdGANdDONdENdVIN
2D06aGEORGIAN SMALL LETTER ZENdTANdINdKANdLASdMANdNARdONdPARdZHARdRAEdSANdTAR
2D13aGEORGIAN SMALL LETTER UNdPHARdKHARdGHANdQARdSHINdCHINdCANdJILdCILdCHAR
2D1EaGEORGIAN SMALL LETTER XANdJHANdHAEdHEdHIEdWEdHARdHOE
2D27aGEORGIAN SMALL LETTER YN
2D2DaGEORGIAN SMALL LETTER AEN
2D30aTIFINAGH LETTER YAdBdHcYAGdHHcBERBER ACADEMY YAJcYAJcYADdHcYADDdHcYEYcYAF
2D3DaTIFINAGH LETTER YAKcTUAREG YAKcYAKHHcYAHcBERBER ACADEMY YAHcTUAREG YAH
2D43aTIFINAGH LETTER YAHHcYAAcYAKHcTUAREG YAKHcYAQcTUAREG YAQcYIcYAZH
2D4BaTIFINAGH LETTER AHAGGAR YAZHcTUAREG YAZHcYALcYAMcYANcTUAREG YAGNdYANGcYAP
2D53aTIFINAGH LETTER YUcYARdRcYAGHcTUAREG YAGHcAYER YAGHcYASdScYASHcYATdHcYACH
2D5FaTIFINAGH LETTER YATTcYAVcYAWcYAYcYAZcTAWELLEMET YAZcYAZZcYEcYO
2D6FaTIFINAGH MODIFIER LETTER LABIALIZATION MARKbSEPARATOR MARK
2D7FaTIFINAGH CONSONANT JOINERaETHIOPIC SYLLABLE LOAcMOAcROAcSOAcSHOAcBOAcTOA
2D87aETHIOPIC SYLLABLE COAcNOAcNYOAcGLOTTAL OAcZOAcDOAcDDOAcJOAcTHOAcCHOAcPHOA
2D92aETHIOPIC SYLLABLE POAcGGWAcGGWIcGGWEEcGGWE
2DA0aETHIOPIC SYLLABLE SSAcSSUcSSIcSSAAcSSEEcSSEcSSO
2DA8aETHIOPIC SYLLABLE CCAcCCUcCCIcCCAAcCCEEcCCEcCCO
2DB0aETHIOPIC SYLLABLE ZZAcZZUcZZIcZZAAcZZEEcZZEcZZO
2DB8aETHIOPIC SYLLABLE CCHAcCCHUcCCHIcCCHAAcCCHEEcCCHEcCCHO
2DC0aETHIOPIC SYLLABLE QYAcQYUcQYIcQYAAcQYEEcQYEcQYO
2DC8aETHIOPIC SYLLABLE KYAcKYUcKYIcKYAAcKYEEcKYEcKYO
2DD0aETHIOPIC SYLLABLE XYAcXYUcXYIcXYAAcXYEEcXYEcXYO
2DD8aETHIOPIC SYLLABLE GYAcGYUcGYIcGYAAcGYEEcGYEcGYO
2DE0aCOMBINING CYRILLIC LETTER BEdVEdGHEdDEdZHEdZEdKAdELdEMdENdOdPEdERdESdTE
2DEFaCOMBINING CYRILLIC LETTER HAdTSEdCHEdSHAdSHCHAdFITAdES-TEdAdIEdDJERV
2DF9aCOMBINING CYRILLIC LETTER MONOGRAPH UKdYATdYUdIOTIFIED AdLITTLE YUS
2DFEaCOMBINING CYRILLIC LETTER BIG YUSdIOTIFIED BIG YUS
2E00aRIGHT ANGLE SUBSTITUTION MARKERcDOTTED SUBSTITUTION MARKER
2E02aLEFT SUBSTITUTION BRACKETaRIGHT SUBSTITUTION BRACKET
2E04aLEFT DOTTED SUBSTITUTION BRACKETaRIGHT DOTTED SUBSTITUTION BRACKET
2E06aRAISED INTERPOLATION MARKERbDOTTED INTERPOLATION MARKER
2E08aDOTTED TRANSPOSITION MARKERaLEFT TRANSPOSITION BRACKET
2E0AaRIGHT TRANSPOSITION BRACKETaRAISED SQUAREaLEFT RAISED OMISSION BRACKET
2E0DaRIGHT RAISED OMISSION BRACKETaEDITORIAL CORONISaPARAGRAPHOS
2E10aFORKED PARAGRAPHOSaREVERSED FORKED PARAGRAPHOSaHYPODIASTOLEaDOTTED OBELOS
2E14aDOWNWARDS ANCORAaUPWARDS ANCORAaDOTTED RIGHT-POINTING ANGLE
2E17aDOUBLE OBLIQUE HYPHENaINVERTED INTERROBANGaPALM BRANCH
2E1AaHYPHEN WITH DIAERESISaTILDE WITH RING ABOVEaLEFT LOW PARAPHRASE BRACKET
2E1DaRIGHT LOW PARAPHRASE BRACKETaTILDE WITH DOT ABOVEdBELOW
2E20aLEFT VERTICAL BAR WITH QUILLaRIGHT VERTICAL BAR WITH QUILL
2E22aTOP LEFT HALF BRACKETbRIGHT HALF BRACKETaBOTTOM LEFT HALF BRACKET
2E25aBOTTOM RIGHT HALF BRACKETaLEFT SIDEWAYS U BRACKET
2E27aRIGHT SIDEWAYS U BRACKETaLEFT DOUBLE PARENTHESISaRIGHT DOUBLE PARENTHESIS
2E2AaTWO DOTS OVER ONE DOT PUNCTUATIONaONE DOT OVER TWO DOTS PUNCTUATION
2E2CaSQUARED FOUR DOT PUNCTUATIONaFIVE DOT MARKaREVERSED QUESTION MARK
2E2FaVERTICAL TILDEaRING POINTaWORD SEPARATOR MIDDLE DOTaTURNED COMMA
2E33aRAISED DOTbCOMMAaTURNED SEMICOLONaDAGGER WITH LEFT GUARDcRIGHT GUARD
2E38aTURNED DAGGERaTOP HALF SECTION SIGNaTWO-EM DASHaTHREE-EM DASH
2E3CaSTENOGRAPHIC FULL STOPaVERTICAL SIX DOTSaWIGGLY VERTICAL LINEaCAPITULUM
2E40aDOUBLE HYPHENaREVERSED COMMAaDOUBLE LOW-REVERSED-9 QUOTATION MARK
2E43aDASH WITH LEFT UPTURNaDOUBLE SUSPENSION MARKaINVERTED LOW KAVYKA
2E46aINVERTED LOW KAVYKA WITH KAVYKA ABOVEaLOW KAVYKAc WITH DOT
2E49aDOUBLE STACKED COMMAaDOTTED SOLIDUSaTRIPLE DAGGERaMEDIEVAL COMMA
2E4DaPARAGRAPHUS MARKaPUNCTUS ELEVATUS MARKaCORNISH VERSE DIVIDER
2E50aCROSS PATTY WITH RIGHT CROSSBARdLEFT CROSSBARaTIRONIAN SIGN CAPITAL ET
2E53aMEDIEVAL EXCLAMATION MARKbQUESTION MARKaLEFT SQUARE BRACKET WITH STROKE
2E56aRIGHT SQUARE BRACKET WITH STROKEaLEFT SQUARE BRACKET WITH DOUBLE STROKE
2E58aRIGHT SQUARE BRACKET WITH DOUBLE STROKEaTOP HALF LEFT PARENTHESIS
2E5AaTOP HALF RIGHT PARENTHESISaBOTTOM HALF LEFT PARENTHESIScRIGHT PARENTHESIS
2E5DaOBLIQUE HYPHEN
2E80aCJK RADICAL REPEATcCLIFFcSECOND ONEdTWOdTHREEcPERSONcBOXcTABLEcKNIFE ONE
2E89aCJK RADICAL KNIFE TWOcDIVINATIONcSEALcSMALL ONEdTWOcLAME ONEdTWOdTHREE
2E91aCJK RADICAL LAME FOURcSNAKEcTHREADcSNOUT ONEdTWOcHEART ONEdTWOcHANDcRAP
2E9BaCJK RADICAL CHOKEcSUNcMOONcDEATHcMOTHERcCIVILIANcWATER ONEdTWOcFIRE
2EA4aCJK RADICAL PAW ONEdTWOcSIMPLIFIED HALF TREE TRUNKcCOWcDOGcJADE
2EAAaCJK RADICAL BOLT OF CLOTHcEYEcSPIRIT ONEdTWOcBAMBOOcSILK
2EB0aCJK RADICAL C-SIMPLIFIED SILKcNET ONEdTWOdTHREEdFOURcMESHcSHEEPcRAMcEWE
2EB9aCJK RADICAL OLDcBRUSH ONEdTWOcMEATcMORTARcGRASS ONEdTWOdTHREEcTIGER
2EC2aCJK RADICAL CLOTHEScWEST ONEdTWOcC-SIMPLIFIED SEEcSIMPLIFIED HORNcHORN
2EC8aCJK RADICAL C-SIMPLIFIED SPEECHeSHELLcFOOTcC-SIMPLIFIED CART
2ECCaCJK RADICAL SIMPLIFIED WALKcWALK ONEdTWOcCITYcC-SIMPLIFIED GOLDcLONG ONE
2ED2aCJK RADICAL LONG TWOcC-SIMPLIFIED LONGeGATEcMOUND ONEdTWOcRAINcBLUE
2ED9aCJK RADICAL C-SIMPLIFIED TANNED LEATHEReLEAFeWINDeFLYcEAT ONEdTWOdTHREE
2EE0aCJK RADICAL C-SIMPLIFIED EATcHEADcC-SIMPLIFIED HORSEcBONEcGHOST
2EE5aCJK RADICAL C-SIMPLIFIED FISHeBIRDeSALTcSIMPLIFIED WHEATdYELLOW
2EEAaCJK RADICAL C-SIMPLIFIED FROGcJ-SIMPLIFIED EVENcC-SIMPLIFIED EVEN
2EEDaCJK RADICAL J-SIMPLIFIED TOOTHcC-SIMPLIFIED TOOTHcJ-SIMPLIFIED DRAGON
2EF0aCJK RADICAL C-SIMPLIFIED DRAGONcTURTLEcJ-SIMPLIFIED TURTLE
2EF3aCJK RADICAL C-SIMPLIFIED TURTLE
2F00aKANGXI RADICAL ONEcLINEcDOTcSLASHcSECONDcHOOKcTWOcLIDcMANcLEGScENTER
2F0BaKANGXI RADICAL EIGHTcDOWN BOXcCOVERcICEcTABLEcOPEN BOXcKNIFEcPOWERcWRAP
2F14aKANGXI RADICAL SPOONcRIGHT OPEN BOXcHIDING ENCLOSUREcTENcDIVINATIONcSEAL
2F1AaKANGXI RADICAL CLIFFcPRIVATEcAGAINcMOUTHcENCLOSUREcEARTHcSCHOLARcGO
2F22aKANGXI RADICAL GO SLOWLYcEVENINGcBIGcWOMANcCHILDcROOFcINCHcSMALLcLAME
2F2BaKANGXI RADICAL CORPSEcSPROUTcMOUNTAINcRIVERcWORKcONESELFcTURBANcDRY
2F33aKANGXI RADICAL SHORT THREADcDOTTED CLIFFcLONG STRIDEcTWO HANDScSHOOTcBOW
2F39aKANGXI RADICAL SNOUTcBRISTLEcSTEPcHEARTcHALBERDcDOORcHANDcBRANCHcRAP
2F42aKANGXI RADICAL SCRIPTcDIPPERcAXEcSQUAREcNOTcSUNcSAYcMOONcTREEcLACKcSTOP
2F4DaKANGXI RADICAL DEATHcWEAPONcDO NOTcCOMPAREcFURcCLANcSTEAMcWATERcFIREcCLAW
2F57aKANGXI RADICAL FATHERcDOUBLE XcHALF TREE TRUNKcSLICEcFANGcCOWcDOG
2F5EaKANGXI RADICAL PROFOUNDcJADEcMELONcTILEcSWEETcLIFEcUSEcFIELD
2F66aKANGXI RADICAL BOLT OF CLOTHcSICKNESScDOTTED TENTcWHITEcSKINcDISHcEYE
2F6DaKANGXI RADICAL SPEARcARROWcSTONEcSPIRITcTRACKcGRAINcCAVEcSTANDcBAMBOO
2F76aKANGXI RADICAL RICEcSILKcJARcNETcSHEEPcFEATHERcOLDcANDcPLOWcEARcBRUSH
2F81aKANGXI RADICAL MEATcMINISTERcSELFcARRIVEcMORTARcTONGUEcOPPOSEcBOAT
2F89aKANGXI RADICAL STOPPINGcCOLORcGRASScTIGERcINSECTcBLOODcWALK ENCLOSURE
2F90aKANGXI RADICAL CLOTHEScWESTcSEEcHORNcSPEECHcVALLEYcBEANcPIGcBADGERcSHELL
2F9AaKANGXI RADICAL REDcRUNcFOOTcBODYcCARTcBITTERcMORNINGcWALKcCITYcWINE
2FA4aKANGXI RADICAL DISTINGUISHcVILLAGEcGOLDcLONGcGATEcMOUNDcSLAVE
2FABaKANGXI RADICAL SHORT TAILED BIRDcRAINcBLUEcWRONGcFACEcLEATHER
2FB1aKANGXI RADICAL TANNED LEATHERcLEEKcSOUNDcLEAFcWINDcFLYcEATcHEADcFRAGRANT
2FBAaKANGXI RADICAL HORSEcBONEcTALLcHAIRcFIGHTcSACRIFICIAL WINEcCAULDRONcGHOST
2FC2aKANGXI RADICAL FISHcBIRDcSALTcDEERcWHEATcHEMPcYELLOWcMILLETcBLACK
2FCBaKANGXI RADICAL EMBROIDERYcFROGcTRIPODcDRUMcRATcNOSEcEVENcTOOTHcDRAGON
2FD4aKANGXI RADICAL TURTLEcFLUTE
2FF0aIDEOGRAPHIC DESCRIPTION CHARACTER LEFT TO RIGHTdABOVE TO BELOW
2FF2aIDEOGRAPHIC DESCRIPTION CHARACTER LEFT TO MIDDLE AND RIGHT
2FF3aIDEOGRAPHIC DESCRIPTION CHARACTER ABOVE TO MIDDLE AND BELOWdFULL SURROUND
2FF5aIDEOGRAPHIC DESCRIPTION CHARACTER SURROUND FROM ABOVEfBELOWfLEFT
2FF8aIDEOGRAPHIC DESCRIPTION CHARACTER SURROUND FROM UPPER LEFTgRIGHT
2FFAaIDEOGRAPHIC DESCRIPTION CHARACTER SURROUND FROM LOWER LEFTdOVERLAID
3000aIDEOGRAPHIC SPACEbCOMMAbFULL STOPaDITTO MARK
3004aJAPANESE INDUSTRIAL STANDARD SYMBOLaIDEOGRAPHIC ITERATION MARK
3006aIDEOGRAPHIC CLOSING MARKbNUMBER ZEROaLEFT ANGLE BRACKET
3009aRIGHT ANGLE BRACKETaLEFT DOUBLE ANGLE BRACKETaRIGHT DOUBLE ANGLE BRACKET
300CaLEFT CORNER BRACKETaRIGHT CORNER BRACKETaLEFT WHITE CORNER BRACKET
300FaRIGHT WHITE CORNER BRACKETaLEFT BLACK LENTICULAR BRACKET
3011aRIGHT BLACK LENTICULAR BRACKETaPOSTAL MARKaGETA MARK
3014aLEFT TORTOISE SHELL BRACKETaRIGHT TORTOISE SHELL BRACKET
3016aLEFT WHITE LENTICULAR BRACKETaRIGHT WHITE LENTICULAR BRACKET
3018aLEFT WHITE TORTOISE SHELL BRACKETaRIGHT WHITE TORTOISE SHELL BRACKET
301AaLEFT WHITE SQUARE BRACKETaRIGHT WHITE SQUARE BRACKETaWAVE DASH
301DaREVERSED DOUBLE PRIME QUOTATION MARKaDOUBLE PRIME QUOTATION MARK
301FaLOW DOUBLE PRIME QUOTATION MARKaPOSTAL MARK FACEaHANGZHOU NUMERAL ONEcTWO
3023aHANGZHOU NUMERAL THREEcFOURcFIVEcSIXcSEVENcEIGHTcNINE
302AaIDEOGRAPHIC LEVEL TONE MARKbRISING TONE MARKbDEPARTING TONE MARK
302DaIDEOGRAPHIC ENTERING TONE MARKaHANGUL SINGLE DOT TONE MARK
302FaHANGUL DOUBLE DOT TONE MARKaWAVY DASHaVERTICAL KANA REPEAT MARK
3032aVERTICAL KANA REPEAT WITH VOICED SOUND MARKdMARK UPPER HALF
3034aVERTICAL KANA REPEAT WITH VOICED SOUND MARK UPPER HALFdMARK LOWER HALF
3036aCIRCLED POSTAL MARKaIDEOGRAPHIC TELEGRAPH LINE FEED SEPARATOR SYMBOL
3038aHANGZHOU NUMERAL TENcTWENTYcTHIRTYaVERTICAL IDEOGRAPHIC ITERATION MARK
303CaMASU MARKaPART ALTERNATION MARKaIDEOGRAPHIC VARIATION INDICATOR
303FaIDEOGRAPHIC HALF FILL SPACE
3041aHIRAGANA LETTER SMALL AcAcSMALL IcIcSMALL UcUcSMALL EcEcSMALL OcOcKAcGA
304DaHIRAGANA LETTER KIcGIcKUcGUcKEcGEcKOcGOcSAcZAcSIcZIcSUcZUcSEcZEcSOcZOcTA
3060aHIRAGANA LETTER DAcTIcDIcSMALL TUcTUcDUcTEcDEcTOcDOcNAcNIcNUcNEcNOcHAcBA
3071aHIRAGANA LETTER PAcHIcBIcPIcHUcBUcPUcHEcBEcPEcHOcBOcPOcMAcMIcMUcMEcMO
3083aHIRAGANA LETTER SMALL YAcYAcSMALL YUcYUcSMALL YOcYOcRAcRIcRUcREcRO
308EaHIRAGANA LETTER SMALL WAcWAcWIcWEcWOcNcVUcSMALL KAdKE
3099aCOMBINING KATAKANA-HIRAGANA VOICED SOUND MARKdSEMI-VOICED SOUND MARK
309BaKATAKANA-HIRAGANA VOICED SOUND MARKcSEMI-VOICED SOUND MARK
309DaHIRAGANA ITERATION MARKbVOICED ITERATION MARKbDIGRAPH YORI
30A0aKATAKANA-HIRAGANA DOUBLE HYPHENaKATAKANA LETTER SMALL AcAcSMALL IcI
30A5aKATAKANA LETTER SMALL UcUcSMALL EcEcSMALL OcOcKAcGAcKIcGIcKUcGUcKEcGEcKO
30B4aKATAKANA LETTER GOcSAcZAcSIcZIcSUcZUcSEcZEcSOcZOcTAcDAcTIcDIcSMALL TUcTU
30C5aKATAKANA LETTER DUcTEcDEcTOcDOcNAcNIcNUcNEcNOcHAcBAcPAcHIcBIcPIcHUcBUcPU
30D8aKATAKANA LETTER HEcBEcPEcHOcBOcPOcMAcMIcMUcMEcMOcSMALL YAcYAcSMALL YUcYU
30E7aKATAKANA LETTER SMALL YOcYOcRAcRIcRUcREcROcSMALL WAcWAcWIcWEcWOcNcVU
30F5aKATAKANA LETTER SMALL KAdKEcVAcVIcVEcVObMIDDLE DOT
30FCaKATAKANA-HIRAGANA PROLONGED SOUND MARKaKATAKANA ITERATION MARK
30FEaKATAKANA VOICED ITERATION MARKbDIGRAPH KOTO
3105aBOPOMOFO LETTER BcPcMcFcDcTcNcLcGcKcHcJcQcXcZHcCHcSHcRcZcCcScAcOcEdHcAI
311FaBOPOMOFO LETTER EIcAUcOUcANcENcANGcENGcERcIcUcIUcVcNGcGNcIH
312EaBOPOMOFO LETTER O WITH DOT ABOVEcNN
3131aHANGUL LETTER KIYEOKcSSANGKIYEOKcKIYEOK-SIOScNIEUNd-CIEUCdHIEUHcTIKEUT
3138aHANGUL LETTER SSANGTIKEUTcRIEULd-KIYEOKdMIEUMdPIEUPdSIOSdTHIEUTHdPHIEUPH
3140aHANGUL LETTER RIEUL-HIEUHcMIEUMcPIEUPcSSANGPIEUPcPIEUP-SIOScSIOS
3146aHANGUL LETTER SSANGSIOScIEUNGcCIEUCcSSANGCIEUCcCHIEUCHcKHIEUKHcTHIEUTH
314DaHANGUL LETTER PHIEUPHcHIEUHcAdEcYAdEcEOcEcYEOcYEcOcWAdEcOEcYOcUcWEOcWEcWI
3160aHANGUL LETTER YUcEUcYIcIbFILLERbLETTER SSANGNIEUNcNIEUN-TIKEUTdSIOS
3168aHANGUL LETTER NIEUN-PANSIOScRIEUL-KIYEOK-SIOSdTIKEUTdPIEUP-SIOSdPANSIOS
316DaHANGUL LETTER RIEUL-YEORINHIEUHcMIEUM-PIEUPdSIOSdPANSIOScKAPYEOUNMIEUM
3172aHANGUL LETTER PIEUP-KIYEOKdTIKEUTdSIOS-KIYEOKeTIKEUTdCIEUCdTHIEUTH
3178aHANGUL LETTER KAPYEOUNPIEUPcKAPYEOUNSSANGPIEUPcSIOS-KIYEOKdNIEUNdTIKEUT
317DaHANGUL LETTER SIOS-PIEUPdCIEUCcPANSIOScSSANGIEUNGcYESIEUNGd-SIOSdPANSIOS
3184aHANGUL LETTER KAPYEOUNPHIEUPHcSSANGHIEUHcYEORINHIEUHcYO-YAeEdIcYU-YEOdYE
318CaHANGUL LETTER YU-IcARAEAdE
3190aIDEOGRAPHIC ANNOTATION LINKING MARKcREVERSE MARKcONE MARKcTWO MARK
3194aIDEOGRAPHIC ANNOTATION THREE MARKcFOUR MARKcTOP MARKcMIDDLE MARK
3198aIDEOGRAPHIC ANNOTATION BOTTOM MARKcFIRST MARKcSECOND MARKcTHIRD MARK
319CaIDEOGRAPHIC ANNOTATION FOURTH MARKcHEAVEN MARKcEARTH MARKcMAN MARK
31A0aBOPOMOFO LETTER BUcZIcJIcGUcEEcENNcOOcONNcIRcANNcINNcUNNcIMcNGGcAINNcAUNN
31B0aBOPOMOFO LETTER AMcOMcONGcINNNbFINAL LETTER PdTdKdHbLETTER GHcLHcZY
31BBaBOPOMOFO FINAL LETTER GbLETTER GWcKWcOEcAHaCJK STROKE TcWGcXGcBXGcSWcHZZ
31C6aCJK STROKE HZGcHPcHZWGcSZWGcHZTcHZZPcHPWGcHZWcHZZZcNcHcScPcSPcDcHZcHGcSZ
31D8aCJK STROKE SWZcSTcSGcPDcPZcTNcSZZcSWGcHXWGcHZZZGcPGcQ
31F0aKATAKANA LETTER SMALL KUdSIdSUdTOdNUdHAdHIdHUdHEdHOdMUdRAdRIdRUdREdRO
3200aPARENTHESIZED HANGUL KIYEOKcNIEUNcTIKEUTcRIEULcMIEUMcPIEUPcSIOScIEUNG
3208aPARENTHESIZED HANGUL CIEUCcCHIEUCHcKHIEUKHcTHIEUTHcPHIEUPHcHIEUHcKIYEOK A
320FaPARENTHESIZED HANGUL NIEUN AcTIKEUT AcRIEUL AcMIEUM AcPIEUP AcSIOS A
3215aPARENTHESIZED HANGUL IEUNG AcCIEUC AcCHIEUCH AcKHIEUKH AcTHIEUTH A
321AaPARENTHESIZED HANGUL PHIEUPH AcHIEUH AcCIEUC UbKOREAN CHARACTER OJEON
321EaPARENTHESIZED KOREAN CHARACTER O HU
3220aPARENTHESIZED IDEOGRAPH ONEcTWOcTHREEcFOURcFIVEcSIXcSEVENcEIGHTcNINEcTEN
322AaPARENTHESIZED IDEOGRAPH MOONcFIREcWATERcWOODcMETALcEARTHcSUNcSTOCKcHAVE
3233aPARENTHESIZED IDEOGRAPH SOCIETYcNAMEcSPECIALcFINANCIALcCONGRATULATION
3238aPARENTHESIZED IDEOGRAPH LABORcREPRESENTcCALLcSTUDYcSUPERVISEcENTERPRISE
323EaPARENTHESIZED IDEOGRAPH RESOURCEcALLIANCEcFESTIVALcRESTcSELFcREACH
3244aCIRCLED IDEOGRAPH QUESTIONcKINDERGARTENcSCHOOLcKOTO
3248aCIRCLED NUMBER TEN ON BLACK SQUAREcTWENTY ON BLACK SQUARE
324AaCIRCLED NUMBER THIRTY ON BLACK SQUAREcFORTY ON BLACK SQUARE
324CaCIRCLED NUMBER FIFTY ON BLACK SQUAREcSIXTY ON BLACK SQUARE
324EaCIRCLED NUMBER SEVENTY ON BLACK SQUAREcEIGHTY ON BLACK SQUARE
3250aPARTNERSHIP SIGNaCIRCLED NUMBER TWENTY ONEdTWOdTHREEdFOURdFIVEdSIXdSEVEN
3258aCIRCLED NUMBER TWENTY EIGHTdNINEcTHIRTYd ONEdTWOdTHREEdFOURdFIVE
3260aCIRCLED HANGUL KIYEOKcNIEUNcTIKEUTcRIEULcMIEUMcPIEUPcSIOScIEUNGcCIEUC
3269aCIRCLED HANGUL CHIEUCHcKHIEUKHcTHIEUTHcPHIEUPHcHIEUHcKIYEOK AcNIEUN A
3270aCIRCLED HANGUL TIKEUT AcRIEUL AcMIEUM AcPIEUP AcSIOS AcIEUNG AcCIEUC A
3277aCIRCLED HANGUL CHIEUCH AcKHIEUKH AcTHIEUTH AcPHIEUPH AcHIEUH A
327CaCIRCLED KOREAN CHARACTER CHAMKOdJUEUIbHANGUL IEUNG U
327FaKOREAN STANDARD SYMBOLaCIRCLED IDEOGRAPH ONEcTWOcTHREEcFOURcFIVEcSIX
3286aCIRCLED IDEOGRAPH SEVENcEIGHTcNINEcTENcMOONcFIREcWATERcWOODcMETALcEARTH
3290aCIRCLED IDEOGRAPH SUNcSTOCKcHAVEcSOCIETYcNAMEcSPECIALcFINANCIAL
3297aCIRCLED IDEOGRAPH CONGRATULATIONcLABORcSECRETcMALEcFEMALEcSUITABLE
329DaCIRCLED IDEOGRAPH EXCELLENTcPRINTcATTENTIONcITEMcRESTcCOPYcCORRECTcHIGH
32A5aCIRCLED IDEOGRAPH CENTREcLOWcLEFTcRIGHTcMEDICINEcRELIGIONcSTUDYcSUPERVISE
32ADaCIRCLED IDEOGRAPH ENTERPRISEcRESOURCEcALLIANCEcNIGHTbNUMBER THIRTY SIX
32B2aCIRCLED NUMBER THIRTY SEVENdEIGHTdNINEcFORTYd ONEdTWOdTHREEdFOURdFIVEdSIX
32BCaCIRCLED NUMBER FORTY SEVENdEIGHTdNINEcFIFTY
32C0aIDEOGRAPHIC TELEGRAPH SYMBOL FOR JANUARYeFEBRUARYeMARCHeAPRILeMAYeJUNE
32C6aIDEOGRAPHIC TELEGRAPH SYMBOL FOR JULYeAUGUSTeSEPTEMBEReOCTOBEReNOVEMBER
32CBaIDEOGRAPHIC TELEGRAPH SYMBOL FOR DECEMBERaSQUARE HGbERGbEV
32CFaLIMITED LIABILITY SIGNaCIRCLED KATAKANA AcIcUcEcOcKAcKIcKUcKEcKOcSAcSIcSU
32DDaCIRCLED KATAKANA SEcSOcTAcTIcTUcTEcTOcNAcNIcNUcNEcNOcHAcHIcHUcHEcHOcMAcMI
32F0aCIRCLED KATAKANA MUcMEcMOcYAcYUcYOcRAcRIcRUcREcROcWAcWIcWEcWO
32FFaSQUARE ERA NAME REIWAbAPAATObARUHUAbANPEAbAARUbININGUbINTIbUONbESUKUUDO
3308aSQUARE EEKAAbONSUbOOMUbKAIRIbKARATTObKARORIIbGARONbGANMAbGIGAbGINII
3312aSQUARE KYURIIbGIRUDAAbKIROcGURAMUbKIROMEETORUbKIROWATTObGURAMUcTON
331AaSQUARE KURUZEIRObKUROONEbKEESUbKORUNAbKOOPObSAIKURUbSANTIIMUbSIRINGU
3322aSQUARE SENTIbSENTObDAASUbDESIbDORUbTONbNANObNOTTObHAITUbPAASENTObPAATU
332DaSQUARE BAARERUbPIASUTORUbPIKURUbPIKObBIRUbHUARADDObHUIITObBUSSYERUbHURAN
3336aSQUARE HEKUTAARUbPESObPENIHIbHERUTUbPENSUbPEEZIbBEETAbPOINTObBORUTObHON
3340aSQUARE PONDObHOORUbHOONbMAIKURObMAIRUbMAHHAbMARUKUbMANSYONbMIKURONbMIRI
334AaSQUARE MIRIBAARUbMEGAcTONbMEETORUbYAADObYAARUbYUANbRITTORUbRIRAbRUPII
3354aSQUARE RUUBURUbREMUbRENTOGENbWATTO
3358aIDEOGRAPHIC TELEGRAPH SYMBOL FOR HOUR ZEROfONEfTWOfTHREEfFOURfFIVEfSIX
335FaIDEOGRAPHIC TELEGRAPH SYMBOL FOR HOUR SEVENfEIGHTfNINEfTENfELEVENfTWELVE
3365aIDEOGRAPHIC TELEGRAPH SYMBOL FOR HOUR THIRTEENfFOURTEENfFIFTEENfSIXTEEN
3369aIDEOGRAPHIC TELEGRAPH SYMBOL FOR HOUR SEVENTEENfEIGHTEENfNINETEENfTWENTY
336DaIDEOGRAPHIC TELEGRAPH SYMBOL FOR HOUR TWENTY-ONEgTWOgTHREEgFOUR
3371aSQUARE HPAbDAbAUbBARbOVbPCbDMc SQUAREDcCUBEDbIUbERA NAME HEISEIdSYOUWA
337DaSQUARE ERA NAME TAISYOUdMEIZIbCORPORATIONbPA AMPSbNAbMU AbMAbKAbKBbMBbGB
3388aSQUARE CALbKCALbPFbNFbMU FcGbMGbKGbHZbKHZbMHZbGHZbTHZbMU LbMLbDLbKLbFMbNM
339BaSQUARE MU MbMMbCMbKMbMM SQUAREDbCM SQUAREDbM SQUAREDbKM SQUAREDbMM CUBED
33A4aSQUARE CM CUBEDbM CUBEDbKM CUBEDbM OVER Se SQUAREDbPAbKPAbMPAbGPAbRAD
33AEaSQUARE RAD OVER Se SQUAREDbPSbNSbMU SbMSbPVbNVbMU VbMVbKVbMV MEGAbPWbNW
33BCaSQUARE MU WbMWbKWbMW MEGAbK OHMbM OHMbAMbBQbCCbCDbC OVER KGbCObDBbGYbHA
33CBaSQUARE HPbINbKKbKM CAPITALbKTbLMbLNbLOGbLXbMB SMALLbMILbMOLbPHbPMbPPMbPR
33DBaSQUARE SRbSVbWBbV OVER MbA OVER M
33E0aIDEOGRAPHIC TELEGRAPH SYMBOL FOR DAY ONEfTWOfTHREEfFOURfFIVEfSIXfSEVEN
33E7aIDEOGRAPHIC TELEGRAPH SYMBOL FOR DAY EIGHTfNINEfTENfELEVENfTWELVE
33ECaIDEOGRAPHIC TELEGRAPH SYMBOL FOR DAY THIRTEENfFOURTEENfFIFTEENfSIXTEEN
33F0aIDEOGRAPHIC TELEGRAPH SYMBOL FOR DAY SEVENTEENfEIGHTEENfNINETEENfTWENTY
33F4aIDEOGRAPHIC TELEGRAPH SYMBOL FOR DAY TWENTY-ONEgTWOgTHREEgFOURgFIVEgSIX
33FAaIDEOGRAPHIC TELEGRAPH SYMBOL FOR DAY TWENTY-SEVENgEIGHTgNINEfTHIRTYg-ONE
33FFaSQUARE GAL
4DC0aHEXAGRAM FOR THE CREATIVE HEAVENdRECEPTIVE EARTH
4DC2aHEXAGRAM FOR DIFFICULTY AT THE BEGINNINGcYOUTHFUL FOLLYcWAITINGcCONFLICT
4DC6aHEXAGRAM FOR THE ARMYcHOLDING TOGETHERcSMALL TAMINGcTREADINGcPEACE
4DCBaHEXAGRAM FOR STANDSTILLcFELLOWSHIPcGREAT POSSESSIONcMODESTYcENTHUSIASM
4DD0aHEXAGRAM FOR FOLLOWINGcWORK ON THE DECAYEDcAPPROACHcCONTEMPLATION
4DD4aHEXAGRAM FOR BITING THROUGHcGRACEcSPLITTING APARTcRETURNcINNOCENCE
4DD9aHEXAGRAM FOR GREAT TAMINGcMOUTH CORNERScGREAT PREPONDERANCE
4DDCaHEXAGRAM FOR THE ABYSMAL WATERdCLINGING FIREcINFLUENCEcDURATIONcRETREAT
4DE1aHEXAGRAM FOR GREAT POWERcPROGRESScDARKENING OF THE LIGHTcTHE FAMILY
4DE5aHEXAGRAM FOR OPPOSITIONcOBSTRUCTIONcDELIVERANCEcDECREASEcINCREASE
4DEAaHEXAGRAM FOR BREAKTHROUGHcCOMING TO MEETcGATHERING TOGETHER
4DEDaHEXAGRAM FOR PUSHING UPWARDcOPPRESSIONcTHE WELLcREVOLUTIONcTHE CAULDRON
4DF2aHEXAGRAM FOR THE AROUSING THUNDERdKEEPING STILL MOUNTAINcDEVELOPMENT
4DF5aHEXAGRAM FOR THE MARRYING MAIDENcABUNDANCEcTHE WANDERERdGENTLE WIND
4DF9aHEXAGRAM FOR THE JOYOUS LAKEcDISPERSIONcLIMITATIONcINNER TRUTH
4DFDaHEXAGRAM FOR SMALL PREPONDERANCEcAFTER COMPLETIONcBEFORE COMPLETION
A000aYI SYLLABLE ITcIXcIdPcIETcIEXcIEdPcATcAXcAdPcUOXcUOdPcOTcOXcOdPcEXcEcWU
A016aYI SYLLABLE BITcBIXcBIdPcBIETcBIEXcBIEdPcBATcBAXcBAdPcBUOXcBUOdPcBOTcBOX
A027aYI SYLLABLE BOdPcBEXcBEdPcBUTcBUXcBUdPcBURXcBURcBYTcBYXcBYdPcBYRXcBYRcPIT
A039aYI SYLLABLE PIXcPIdPcPIEXcPIEdPcPATcPAXcPAdPcPUOXcPUOdPcPOTcPOXcPOdPcPUT
A04BaYI SYLLABLE PUXcPUdPcPURXcPURcPYTcPYXcPYdPcPYRXcPYRcBBITcBBIXcBBIdPcBBIET
A05BaYI SYLLABLE BBIEXcBBIEdPcBBATcBBAXcBBAdPcBBUOXcBBUOdPcBBOTcBBOXcBBOdP
A069aYI SYLLABLE BBEXcBBEdPcBBUTcBBUXcBBUdPcBBURXcBBURcBBYTcBBYXcBBYdPcNBIT
A077aYI SYLLABLE NBIXcNBIdPcNBIEXcNBIEdPcNBATcNBAXcNBAdPcNBOTcNBOXcNBOdPcNBUT
A086aYI SYLLABLE NBUXcNBUdPcNBURXcNBURcNBYTcNBYXcNBYdPcNBYRXcNBYRcHMITcHMIX
A093aYI SYLLABLE HMIdPcHMIEXcHMIEdPcHMATcHMAXcHMAdPcHMUOXcHMUOdPcHMOTcHMOXcHMO
A0A2aYI SYLLABLE HMOPcHMUTcHMUXcHMUdPcHMURXcHMURcHMYXcHMYdPcHMYRXcHMYRcMITcMIX
A0B0aYI SYLLABLE MIdPcMIEXcMIEdPcMATcMAXcMAdPcMUOTcMUOXcMUOdPcMOTcMOXcMOdPcMEX
A0C2aYI SYLLABLE MEcMUTcMUXcMUdPcMURXcMURcMYTcMYXcMYdPcFITcFIXcFIdPcFATcFAXcFA
A0D4aYI SYLLABLE FAPcFOXcFOdPcFUTcFUXcFUdPcFURXcFURcFYTcFYXcFYdPcVITcVIXcVIdP
A0E6aYI SYLLABLE VIETcVIEXcVIEdPcVATcVAXcVAdPcVOTcVOXcVOdPcVEXcVEPcVUTcVUXcVU
A0F7aYI SYLLABLE VUPcVURXcVURcVYTcVYXcVYdPcVYRXcVYRcDITcDIXcDIdPcDIEXcDIEdP
A107aYI SYLLABLE DATcDAXcDAdPcDUOXcDUOcDOTcDOXcDOdPcDEXcDEdPcDUTcDUXcDUdPcDURX
A119aYI SYLLABLE DURcTITcTIXcTIdPcTIEXcTIEdPcTATcTAXcTAdPcTUOTcTUOXcTUOdPcTOT
A12AaYI SYLLABLE TOXcTOdPcTEXcTEdPcTUTcTUXcTUdPcTURXcTURcDDITcDDIXcDDIdPcDDIEX
A13BaYI SYLLABLE DDIEdPcDDATcDDAXcDDAdPcDDUOXcDDUOdPcDDOTcDDOXcDDOdPcDDEXcDDE
A14AaYI SYLLABLE DDEPcDDUTcDDUXcDDUdPcDDURXcDDURcNDITcNDIXcNDIdPcNDIEXcNDIE
A157aYI SYLLABLE NDATcNDAXcNDAdPcNDOTcNDOXcNDOdPcNDEXcNDEdPcNDUTcNDUXcNDUdP
A166aYI SYLLABLE NDURXcNDURcHNITcHNIXcHNIdPcHNIETcHNIEXcHNIEdPcHNATcHNAXcHNAdP
A174aYI SYLLABLE HNUOXcHNUOcHNOTcHNOXcHNOPcHNEXcHNEdPcHNUTcNITcNIXcNIdPcNIEX
A182aYI SYLLABLE NIEdPcNAXcNAdPcNUOXcNUOdPcNOTcNOXcNOdPcNEXcNEdPcNUTcNUXcNUdP
A195aYI SYLLABLE NURXcNURcHLITcHLIXcHLIdPcHLIEXcHLIEdPcHLATcHLAXcHLAdPcHLUOX
A1A3aYI SYLLABLE HLUOdPcHLOXcHLOdPcHLEXcHLEdPcHLUTcHLUXcHLUdPcHLURXcHLURcHLYT
A1B2aYI SYLLABLE HLYXcHLYdPcHLYRXcHLYRcLITcLIXcLIdPcLIETcLIEXcLIEdPcLATcLAXcLA
A1C2aYI SYLLABLE LAPcLUOTcLUOXcLUOdPcLOTcLOXcLOdPcLEXcLEdPcLUTcLUXcLUdPcLURX
A1D3aYI SYLLABLE LURcLYTcLYXcLYdPcLYRXcLYRcGITcGIXcGIdPcGIETcGIEXcGIEdPcGAT
A1E3aYI SYLLABLE GAXcGAdPcGUOTcGUOXcGUOdPcGOTcGOXcGOdPcGETcGEXcGEdPcGUTcGUXcGU
A1F5aYI SYLLABLE GUPcGURXcGURcKITcKIXcKIdPcKIEXcKIEdPcKATcKAXcKAdPcKUOXcKUOdP
A206aYI SYLLABLE KOTcKOXcKOdPcKETcKEXcKEdPcKUTcKUXcKUdPcKURXcKURcGGITcGGIXcGGI
A217aYI SYLLABLE GGIEXcGGIEdPcGGATcGGAXcGGAdPcGGUOTcGGUOXcGGUOdPcGGOTcGGOXcGGO
A225aYI SYLLABLE GGOPcGGETcGGEXcGGEdPcGGUTcGGUXcGGUdPcGGURXcGGURcMGIEXcMGIE
A232aYI SYLLABLE MGATcMGAXcMGAdPcMGUOXcMGUOdPcMGOTcMGOXcMGOdPcMGEXcMGEdPcMGUT
A241aYI SYLLABLE MGUXcMGUdPcMGURXcMGURcHXITcHXIXcHXIdPcHXIETcHXIEXcHXIEdPcHXAT
A24FaYI SYLLABLE HXAXcHXAdPcHXUOTcHXUOXcHXUOdPcHXOTcHXOXcHXOdPcHXEXcHXEdP
A25DaYI SYLLABLE NGIEXcNGIEdPcNGATcNGAXcNGAdPcNGUOTcNGUOXcNGUOcNGOTcNGOXcNGOdP
A26BaYI SYLLABLE NGEXcNGEdPcHITcHIEXcHIEcHATcHAXcHAdPcHUOTcHUOXcHUOdPcHOTcHOX
A27BaYI SYLLABLE HOdPcHEXcHEdPcWATcWAXcWAdPcWUOXcWUOdPcWOXcWOdPcWEXcWEdPcZIT
A28EaYI SYLLABLE ZIXcZIdPcZIEXcZIEdPcZATcZAXcZAdPcZUOXcZUOdPcZOTcZOXcZOdPcZEX
A2A0aYI SYLLABLE ZEdPcZUTcZUXcZUdPcZURXcZURcZYTcZYXcZYdPcZYRXcZYRcCITcCIXcCIdP
A2B2aYI SYLLABLE CIETcCIEXcCIEdPcCATcCAXcCAdPcCUOXcCUOdPcCOTcCOXcCOdPcCEXcCEdP
A2C4aYI SYLLABLE CUTcCUXcCUdPcCURXcCURcCYTcCYXcCYdPcCYRXcCYRcZZITcZZIXcZZIdP
A2D4aYI SYLLABLE ZZIETcZZIEXcZZIEdPcZZATcZZAXcZZAdPcZZOXcZZOdPcZZEXcZZEdPcZZUX
A2E3aYI SYLLABLE ZZUdPcZZURXcZZURcZZYTcZZYXcZZYdPcZZYRXcZZYRcNZITcNZIXcNZIdP
A2F1aYI SYLLABLE NZIEXcNZIEdPcNZATcNZAXcNZAdPcNZUOXcNZUOcNZOXcNZOPcNZEXcNZE
A2FEaYI SYLLABLE NZUXcNZUdPcNZURXcNZURcNZYTcNZYXcNZYdPcNZYRXcNZYRcSITcSIXcSIdP
A30DaYI SYLLABLE SIEXcSIEdPcSATcSAXcSAdPcSUOXcSUOdPcSOTcSOXcSOdPcSEXcSEdPcSUT
A31FaYI SYLLABLE SUXcSUdPcSURXcSURcSYTcSYXcSYdPcSYRXcSYRcSSITcSSIXcSSIdPcSSIEX
A32FaYI SYLLABLE SSIEdPcSSATcSSAXcSSAdPcSSOTcSSOXcSSOdPcSSEXcSSEdPcSSUTcSSUX
A33EaYI SYLLABLE SSUdPcSSYTcSSYXcSSYdPcSSYRXcSSYRcZHATcZHAXcZHAdPcZHUOXcZHUOdP
A34DaYI SYLLABLE ZHOTcZHOXcZHOdPcZHETcZHEXcZHEdPcZHUTcZHUXcZHUdPcZHURXcZHUR
A35BaYI SYLLABLE ZHYTcZHYXcZHYdPcZHYRXcZHYRcCHATcCHAXcCHAdPcCHUOTcCHUOXcCHUOdP
A369aYI SYLLABLE CHOTcCHOXcCHOdPcCHETcCHEXcCHEdPcCHUXcCHUdPcCHURXcCHURcCHYT
A377aYI SYLLABLE CHYXcCHYdPcCHYRXcCHYRcRRAXcRRAcRRUOXcRRUOcRROTcRROXcRROdP
A384aYI SYLLABLE RRETcRREXcRREdPcRRUTcRRUXcRRUdPcRRURXcRRURcRRYTcRRYXcRRYdP
A392aYI SYLLABLE RRYRXcRRYRcNRATcNRAXcNRAdPcNROXcNROdPcNRETcNREXcNREdPcNRUT
A3A0aYI SYLLABLE NRUXcNRUdPcNRURXcNRURcNRYTcNRYXcNRYdPcNRYRXcNRYRcSHATcSHAX
A3ADaYI SYLLABLE SHAdPcSHUOXcSHUOdPcSHOTcSHOXcSHOdPcSHETcSHEXcSHEdPcSHUTcSHUX
A3BCaYI SYLLABLE SHUdPcSHURXcSHURcSHYTcSHYXcSHYdPcSHYRXcSHYRcRATcRAXcRAdPcRUOX
A3CBaYI SYLLABLE RUOdPcROTcROXcROdPcREXcREdPcRUTcRUXcRUdPcRURXcRURcRYTcRYXcRY
A3DDaYI SYLLABLE RYPcRYRXcRYRcJITcJIXcJIdPcJIETcJIEXcJIEdPcJUOTcJUOXcJUOdPcJOT
A3EDaYI SYLLABLE JOXcJOdPcJUTcJUXcJUdPcJURXcJURcJYTcJYXcJYdPcJYRXcJYRcQITcQIX
A3FEaYI SYLLABLE QIdPcQIETcQIEXcQIEdPcQUOTcQUOXcQUOdPcQOTcQOXcQOdPcQUTcQUXcQU
A40FaYI SYLLABLE QUPcQURXcQURcQYTcQYXcQYdPcQYRXcQYRcJJITcJJIXcJJIdPcJJIET
A41DaYI SYLLABLE JJIEXcJJIEdPcJJUOXcJJUOdPcJJOTcJJOXcJJOdPcJJUTcJJUXcJJUdP
A42BaYI SYLLABLE JJURXcJJURcJJYTcJJYXcJJYdPcNJITcNJIXcNJIdPcNJIETcNJIEXcNJIEdP
A439aYI SYLLABLE NJUOXcNJUOcNJOTcNJOXcNJOdPcNJUXcNJUdPcNJURXcNJURcNJYTcNJYX
A446aYI SYLLABLE NJYdPcNJYRXcNJYRcNYITcNYIXcNYIdPcNYIETcNYIEXcNYIEdPcNYUOX
A453aYI SYLLABLE NYUOdPcNYOTcNYOXcNYOdPcNYUTcNYUXcNYUdPcXITcXIXcXIdPcXIETcXIEX
A463aYI SYLLABLE XIEdPcXUOXcXUOcXOTcXOXcXOdPcXYTcXYXcXYdPcXYRXcXYRcYITcYIXcYI
A474aYI SYLLABLE YIPcYIETcYIEXcYIEdPcYUOTcYUOXcYUOdPcYOTcYOXcYOdPcYUTcYUXcYUdP
A485aYI SYLLABLE YURXcYURcYYTcYYXcYYdPcYYRXcYYR
A490aYI RADICAL QOTcLIcKITcNYIPcCYPcSSIcGGOPcGEPcMIcHXITcLYRcBBUTcMOPcYOcPUT
A49FaYI RADICAL HXUOcTATcGAcZUPcCYTcDDURcBURcGGUOcNYOPcTUcOPcJJUTcZOTcPYTcHMO
A4AEaYI RADICAL YITcVURcSHYcVEPcZAcJOcNZUPcJJYcGOTcJJIEcWOcDUcSHURcLIEcCYcCUOP
A4BEaYI RADICAL CIPcHXOPcSHATcZURcSHOPcCHEcZZIETcNBIEcKE
A4D0aLISU LETTER BAcPAcPHAcDAcTAcTHAcGAcKAcKHAcJAcCAcCHAcDZAcTSAcTSHAcMAcNAcLA
A4E2aLISU LETTER SAcZHAcZAcNGAcHAcXAcHHAcFAcWAcSHAcYAcGHAcAdEcEdUcIcOcUdEcUH
A4F7aLISU LETTER OEcTONE MYA TIdNA POdMYA CYAeBOeNAeJEUbPUNCTUATION COMMA
A4FFaLISU PUNCTUATION FULL STOPaVAI SYLLABLE EEdNcHEEcWEEdNcPEEcBHEEcBEEcMBEE
A509aVAI SYLLABLE KPEEcMGBEEcGBEEcFEEcVEEcTEEcTHEEcDHEEcDHHEEcLEEcREEcDEEcNDEE
A516aVAI SYLLABLE SEEcSHEEcZEEcZHEEcCEEcJEEcNJEEcYEEcKEEcNGGEEcGEEcMEEcNEE
A523aVAI SYLLABLE NYEEcIdNcHIdNcWIdNcPIcBHIcBIcMBIcKPIcMGBIcGBIcFIcVIcTIcTHI
A535aVAI SYLLABLE DHIcDHHIcLIcRIcDIcNDIcSIcSHIcZIcZHIcCIcJIcNJIcYIcKIcNGGIcGI
A546aVAI SYLLABLE MIcNIcNYIcAdNcNGANcHAdNcWAdNcPAcBHAcBAcMBAcKPAdNcMGBAcGBAcFA
A559aVAI SYLLABLE VAcTAcTHAcDHAcDHHAcLAcRAcDAcNDAcSAcSHAcZAcZHAcCAcJAcNJAcYA
A56AaVAI SYLLABLE KAdNcNGGAcGAcMAcNAcNYAcOOdNcHOOcWOOdNcPOOcBHOOcBOOcMBOOcKPOO
A57BaVAI SYLLABLE MGBOOcGBOOcFOOcVOOcTOOcTHOOcDHOOcDHHOOcLOOcROOcDOOcNDOOcSOO
A588aVAI SYLLABLE SHOOcZOOcZHOOcCOOcJOOcNJOOcYOOcKOOcNGGOOcGOOcMOOcNOOcNYOOcU
A596aVAI SYLLABLE UNcHUdNcWUdNcPUcBHUcBUcMBUcKPUcMGBUcGBUcFUcVUcTUcTHUcDHU
A5A7aVAI SYLLABLE DHHUcLUcRUcDUcNDUcSUcSHUcZUcZHUcCUcJUcNJUcYUcKUcNGGUcGUcMU
A5B8aVAI SYLLABLE NUcNYUcOdNcNGONcHOdNcWOdNcPOcBHOcBOcMBOcKPOcMGBOcGBOdNcFOcVO
A5CBaVAI SYLLABLE TOcTHOcDHOcDHHOcLOcROcDOcNDOcSOcSHOcZOcZHOcCOcJOcNJOcYOcKO
A5DCaVAI SYLLABLE NGGOcGOcMOcNOcNYOcEdNcNGENcHEdNcWEdNcPEcBHEcBEcMBEcKPEdN
A5EEaVAI SYLLABLE MGBEcGBEdNcFEcVEcTEcTHEcDHEcDHHEcLEcREcDEcNDEcSEcSHEcZEcZHE
A5FFaVAI SYLLABLE CEcJEcNJEcYEcKEcNGGEdNcGEdNcMEcNEcNYEcNGcLENGTHENERbCOMMA
A60EaVAI FULL STOPbQUESTION MARKbSYLLABLE NDOLE FAdKAdSOObSYMBOL FEENGcKEENG
A615aVAI SYMBOL TINGcNIIcBANGcFAAcTAAcDANGcDOONGcKUNGcTONGcDO-OcJONG
A620aVAI DIGIT ZEROcONEcTWOcTHREEcFOURcFIVEcSIXcSEVENcEIGHTcNINE
A62AaVAI SYLLABLE NDOLE MAdDO
A640aCYRILLIC CAPITAL LETTER ZEMLYAbSMALL LETTER ZEMLYAbCAPITAL LETTER DZELO
A643aCYRILLIC SMALL LETTER DZELObCAPITAL LETTER REVERSED DZE
A645aCYRILLIC SMALL LETTER REVERSED DZEbCAPITAL LETTER IOTAbSMALL LETTER IOTA
A648aCYRILLIC CAPITAL LETTER DJERVbSMALL LETTER DJERV
A64AaCYRILLIC CAPITAL LETTER MONOGRAPH UKbSMALL LETTER MONOGRAPH UK
A64CaCYRILLIC CAPITAL LETTER BROAD OMEGAbSMALL LETTER BROAD OMEGA
A64EaCYRILLIC CAPITAL LETTER NEUTRAL YERbSMALL LETTER NEUTRAL YER
A650aCYRILLIC CAPITAL LETTER YERU WITH BACK YER
A651aCYRILLIC SMALL LETTER YERU WITH BACK YERbCAPITAL LETTER IOTIFIED YAT
A653aCYRILLIC SMALL LETTER IOTIFIED YATbCAPITAL LETTER REVERSED YU
A655aCYRILLIC SMALL LETTER REVERSED YUbCAPITAL LETTER IOTIFIED A
A657aCYRILLIC SMALL LETTER IOTIFIED AbCAPITAL LETTER CLOSED LITTLE YUS
A659aCYRILLIC SMALL LETTER CLOSED LITTLE YUSbCAPITAL LETTER BLENDED YUS
A65BaCYRILLIC SMALL LETTER BLENDED YUS
A65CaCYRILLIC CAPITAL LETTER IOTIFIED CLOSED LITTLE YUS
A65DaCYRILLIC SMALL LETTER IOTIFIED CLOSED LITTLE YUSbCAPITAL LETTER YN
A65FaCYRILLIC SMALL LETTER YNbCAPITAL LETTER REVERSED TSE
A661aCYRILLIC SMALL LETTER REVERSED TSEbCAPITAL LETTER SOFT DE
A663aCYRILLIC SMALL LETTER SOFT DEbCAPITAL LETTER SOFT ELbSMALL LETTER SOFT EL
A666aCYRILLIC CAPITAL LETTER SOFT EMbSMALL LETTER SOFT EM
A668aCYRILLIC CAPITAL LETTER MONOCULAR ObSMALL LETTER MONOCULAR O
A66AaCYRILLIC CAPITAL LETTER BINOCULAR ObSMALL LETTER BINOCULAR O
A66CaCYRILLIC CAPITAL LETTER DOUBLE MONOCULAR O
A66DaCYRILLIC SMALL LETTER DOUBLE MONOCULAR ObLETTER MULTIOCULAR O
A66FaCOMBINING CYRILLIC VZMETcTEN MILLIONS SIGNcHUNDRED MILLIONS SIGN
A672aCOMBINING CYRILLIC THOUSAND MILLIONS SIGNaSLAVONIC ASTERISK
A674aCOMBINING CYRILLIC LETTER UKRAINIAN IEdIdYIdUdHARD SIGNdYERUdSOFT SIGN
A67BaCOMBINING CYRILLIC LETTER OMEGAcKAVYKAcPAYEROKaCYRILLIC KAVYKAbPAYEROK
A680aCYRILLIC CAPITAL LETTER DWEbSMALL LETTER DWEbCAPITAL LETTER DZWE
A683aCYRILLIC SMALL LETTER DZWEbCAPITAL LETTER ZHWEbSMALL LETTER ZHWE
A686aCYRILLIC CAPITAL LETTER CCHEbSMALL LETTER CCHEbCAPITAL LETTER DZZE
A689aCYRILLIC SMALL LETTER DZZEbCAPITAL LETTER TE WITH MIDDLE HOOK
A68BaCYRILLIC SMALL LETTER TE WITH MIDDLE HOOKbCAPITAL LETTER TWE
A68DaCYRILLIC SMALL LETTER TWEbCAPITAL LETTER TSWEbSMALL LETTER TSWE
A690aCYRILLIC CAPITAL LETTER TSSEbSMALL LETTER TSSEbCAPITAL LETTER TCHE
A693aCYRILLIC SMALL LETTER TCHEbCAPITAL LETTER HWEbSMALL LETTER HWE
A696aCYRILLIC CAPITAL LETTER SHWEbSMALL LETTER SHWEbCAPITAL LETTER DOUBLE O
A699aCYRILLIC SMALL LETTER DOUBLE ObCAPITAL LETTER CROSSED O
A69BaCYRILLIC SMALL LETTER CROSSED OaMODIFIER LETTER CYRILLIC HARD SIGN
A69DaMODIFIER LETTER CYRILLIC SOFT SIGNaCOMBINING CYRILLIC LETTER EF
A69FaCOMBINING CYRILLIC LETTER IOTIFIED EaBAMUM LETTER AcKAcUcKUcEEcREEcTAEcO
A6A8aBAMUM LETTER NYIcIcLAcPAcRIIcRIEEcLEEEEcMEEEEcTAAcNDAAcNJAEMcMcSUUcMU
A6B6aBAMUM LETTER SHIIcSIcSHEUXcSEUXcKYEEcKETcNUAEcNUcNJUAEcYOQcSHUcYUQcYA
A6C3aBAMUM LETTER NSHAcKEUXcPEUXcNJEEcNTEEcPUEcWUEcPEEcFEEcRUcLUcMIcNIcREUX
A6D1aBAMUM LETTER RAEcKENcNGKWAENcNGGAcNGAcSHOcPUAEcFUcFOMcWAcNAcLIcPIcLOQcKO
A6E0aBAMUM LETTER MBENcRENcMENcMAcTIcKIcMOcMBAAcTETcKPAcTENcNTUUcSAMBAcFAAMAE
A6EEaBAMUM LETTER KOVUUcKOGHOMbCOMBINING MARK KOQNDONdTUKWENTISbNJAEMLI
A6F3aBAMUM FULL STOPbCOLONbCOMMAbSEMICOLONbQUESTION MARK
A700aMODIFIER LETTER CHINESE TONE YIN PINGeYANG PINGeYIN SHANGeYANG SHANG
A704aMODIFIER LETTER CHINESE TONE YIN QUeYANG QUeYIN RUeYANG RU
A708aMODIFIER LETTER EXTRA-HIGH DOTTED TONE BARcHIGH DOTTED TONE BAR
A70AaMODIFIER LETTER MID DOTTED TONE BARcLOW DOTTED TONE BAR
A70CaMODIFIER LETTER EXTRA-LOW DOTTED TONE BARdHIGH DOTTED LEFT-STEM TONE BAR
A70EaMODIFIER LETTER HIGH DOTTED LEFT-STEM TONE BAR
A70FaMODIFIER LETTER MID DOTTED LEFT-STEM TONE BAR
A710aMODIFIER LETTER LOW DOTTED LEFT-STEM TONE BAR
A711aMODIFIER LETTER EXTRA-LOW DOTTED LEFT-STEM TONE BAR
A712aMODIFIER LETTER EXTRA-HIGH LEFT-STEM TONE BARcHIGH LEFT-STEM TONE BAR
A714aMODIFIER LETTER MID LEFT-STEM TONE BARcLOW LEFT-STEM TONE BAR
A716aMODIFIER LETTER EXTRA-LOW LEFT-STEM TONE BARcDOT VERTICAL BARdSLASH
A719aMODIFIER LETTER DOT HORIZONTAL BARcLOWER RIGHT CORNER ANGLE
A71BaMODIFIER LETTER RAISED UP ARROWdDOWN ARROWdEXCLAMATION MARK
A71EaMODIFIER LETTER RAISED INVERTED EXCLAMATION MARK
A71FaMODIFIER LETTER LOW INVERTED EXCLAMATION MARKcSTRESS AND HIGH TONE
A721aMODIFIER LETTER STRESS AND LOW TONE
A722aLATIN CAPITAL LETTER EGYPTOLOGICAL ALEFbSMALL LETTER EGYPTOLOGICAL ALEF
A724aLATIN CAPITAL LETTER EGYPTOLOGICAL AINbSMALL LETTER EGYPTOLOGICAL AIN
A726aLATIN CAPITAL LETTER HENGbSMALL LETTER HENGbCAPITAL LETTER TZ
A729aLATIN SMALL LETTER TZbCAPITAL LETTER TRESILLObSMALL LETTER TRESILLO
A72CaLATIN CAPITAL LETTER CUATRILLObSMALL LETTER CUATRILLO
A72EaLATIN CAPITAL LETTER CUATRILLO WITH COMMA
A72FaLATIN SMALL LETTER CUATRILLO WITH COMMAbLETTER SMALL CAPITAL FeS
A732aLATIN CAPITAL LETTER AAbSMALL LETTER AAbCAPITAL LETTER AObSMALL LETTER AO
A736aLATIN CAPITAL LETTER AUbSMALL LETTER AUbCAPITAL LETTER AVbSMALL LETTER AV
A73AaLATIN CAPITAL LETTER AV WITH HORIZONTAL BAR
A73BaLATIN SMALL LETTER AV WITH HORIZONTAL BARbCAPITAL LETTER AY
A73DaLATIN SMALL LETTER AYbCAPITAL LETTER REVERSED C WITH DOT
A73FaLATIN SMALL LETTER REVERSED C WITH DOTbCAPITAL LETTER K WITH STROKE
A741aLATIN SMALL LETTER K WITH STROKEbCAPITAL LETTER K WITH DIAGONAL STROKE
A743aLATIN SMALL LETTER K WITH DIAGONAL STROKE
A744aLATIN CAPITAL LETTER K WITH STROKE AND DIAGONAL STROKE
A745aLATIN SMALL LETTER K WITH STROKE AND DIAGONAL STROKE
A746aLATIN CAPITAL LETTER BROKEN LbSMALL LETTER BROKEN L
A748aLATIN CAPITAL LETTER L WITH HIGH STROKEbSMALL LETTER L WITH HIGH STROKE
A74AaLATIN CAPITAL LETTER O WITH LONG STROKE OVERLAY
A74BaLATIN SMALL LETTER O WITH LONG STROKE OVERLAYbCAPITAL LETTER O WITH LOOP
A74DaLATIN SMALL LETTER O WITH LOOPbCAPITAL LETTER OObSMALL LETTER OO
A750aLATIN CAPITAL LETTER P WITH STROKE THROUGH DESCENDER
A751aLATIN SMALL LETTER P WITH STROKE THROUGH DESCENDER
A752aLATIN CAPITAL LETTER P WITH FLOURISHbSMALL LETTER P WITH FLOURISH
A754aLATIN CAPITAL LETTER P WITH SQUIRREL TAIL
A755aLATIN SMALL LETTER P WITH SQUIRREL TAIL
A756aLATIN CAPITAL LETTER Q WITH STROKE THROUGH DESCENDER
A757aLATIN SMALL LETTER Q WITH STROKE THROUGH DESCENDER
A758aLATIN CAPITAL LETTER Q WITH DIAGONAL STROKE
A759aLATIN SMALL LETTER Q WITH DIAGONAL STROKEbCAPITAL LETTER R ROTUNDA
A75BaLATIN SMALL LETTER R ROTUNDAbCAPITAL LETTER RUM ROTUNDA
A75DaLATIN SMALL LETTER RUM ROTUNDAbCAPITAL LETTER V WITH DIAGONAL STROKE
A75FaLATIN SMALL LETTER V WITH DIAGONAL STROKEbCAPITAL LETTER VY
A761aLATIN SMALL LETTER VYbCAPITAL LETTER VISIGOTHIC Z
A763aLATIN SMALL LETTER VISIGOTHIC ZbCAPITAL LETTER THORN WITH STROKE
A765aLATIN SMALL LETTER THORN WITH STROKE
A766aLATIN CAPITAL LETTER THORN WITH STROKE THROUGH DESCENDER
A767aLATIN SMALL LETTER THORN WITH STROKE THROUGH DESCENDER
A768aLATIN CAPITAL LETTER VENDbSMALL LETTER VENDbCAPITAL LETTER ET
A76BaLATIN SMALL LETTER ETbCAPITAL LETTER ISbSMALL LETTER IS
A76EaLATIN CAPITAL LETTER CONbSMALL LETTER CONaMODIFIER LETTER US
A771aLATIN SMALL LETTER DUMdLUMdMUMdNUMdRUMbLETTER SMALL CAPITAL RUM
A777aLATIN SMALL LETTER TUMdUMbCAPITAL LETTER INSULAR DbSMALL LETTER INSULAR D
A77BaLATIN CAPITAL LETTER INSULAR FbSMALL LETTER INSULAR F
A77DaLATIN CAPITAL LETTER INSULAR GdTURNED INSULAR G
A77FaLATIN SMALL LETTER TURNED INSULAR GbCAPITAL LETTER TURNED L
A781aLATIN SMALL LETTER TURNED LbCAPITAL LETTER INSULAR R
A783aLATIN SMALL LETTER INSULAR RbCAPITAL LETTER INSULAR S
A785aLATIN SMALL LETTER INSULAR SbCAPITAL LETTER INSULAR T
A787aLATIN SMALL LETTER INSULAR TaMODIFIER LETTER LOW CIRCUMFLEX ACCENTcCOLON
A78AaMODIFIER LETTER SHORT EQUALS SIGNaLATIN CAPITAL LETTER SALTILLO
A78CaLATIN SMALL LETTER SALTILLObCAPITAL LETTER TURNED H
A78EaLATIN SMALL LETTER L WITH RETROFLEX HOOK AND BELTbLETTER SINOLOGICAL DOT
A790aLATIN CAPITAL LETTER N WITH DESCENDERbSMALL LETTER N WITH DESCENDER
A792aLATIN CAPITAL LETTER C WITH BARbSMALL LETTER C WITH BARfPALATAL HOOK
A795aLATIN SMALL LETTER H WITH PALATAL HOOKbCAPITAL LETTER B WITH FLOURISH
A797aLATIN SMALL LETTER B WITH FLOURISHbCAPITAL LETTER F WITH STROKE
A799aLATIN SMALL LETTER F WITH STROKEbCAPITAL LETTER VOLAPUK AE
A79BaLATIN SMALL LETTER VOLAPUK AEbCAPITAL LETTER VOLAPUK OE
A79DaLATIN SMALL LETTER VOLAPUK OEbCAPITAL LETTER VOLAPUK UE
A79FaLATIN SMALL LETTER VOLAPUK UEbCAPITAL LETTER G WITH OBLIQUE STROKE
A7A1aLATIN SMALL LETTER G WITH OBLIQUE STROKE
A7A2aLATIN CAPITAL LETTER K WITH OBLIQUE STROKE
A7A3aLATIN SMALL LETTER K WITH OBLIQUE STROKE
A7A4aLATIN CAPITAL LETTER N WITH OBLIQUE STROKE
A7A5aLATIN SMALL LETTER N WITH OBLIQUE STROKE
A7A6aLATIN CAPITAL LETTER R WITH OBLIQUE STROKE
A7A7aLATIN SMALL LETTER R WITH OBLIQUE STROKE
A7A8aLATIN CAPITAL LETTER S WITH OBLIQUE STROKE
A7A9aLATIN SMALL LETTER S WITH OBLIQUE STROKEbCAPITAL LETTER H WITH HOOK
A7ABaLATIN CAPITAL LETTER REVERSED OPEN EdSCRIPT GdL WITH BELTdSMALL CAPITAL I
A7AFaLATIN LETTER SMALL CAPITAL QbCAPITAL LETTER TURNED KeT
A7B2aLATIN CAPITAL LETTER J WITH CROSSED-TAILdCHIdBETAbSMALL LETTER BETA
A7B6aLATIN CAPITAL LETTER OMEGAbSMALL LETTER OMEGA
A7B8aLATIN CAPITAL LETTER U WITH STROKEbSMALL LETTER U WITH STROKE
A7BAaLATIN CAPITAL LETTER GLOTTAL AbSMALL LETTER GLOTTAL A
A7BCaLATIN CAPITAL LETTER GLOTTAL IbSMALL LETTER GLOTTAL I
A7BEaLATIN CAPITAL LETTER GLOTTAL UbSMALL LETTER GLOTTAL U
A7C0aLATIN CAPITAL LETTER OLD POLISH ObSMALL LETTER OLD POLISH O
A7C2aLATIN CAPITAL LETTER ANGLICANA WbSMALL LETTER ANGLICANA W
A7C4aLATIN CAPITAL LETTER C WITH PALATAL HOOKdS WITH HOOKdZ WITH PALATAL HOOK
A7C7aLATIN CAPITAL LETTER D WITH SHORT STROKE OVERLAY
A7C8aLATIN SMALL LETTER D WITH SHORT STROKE OVERLAY
A7C9aLATIN CAPITAL LETTER S WITH SHORT STROKE OVERLAY
A7CAaLATIN SMALL LETTER S WITH SHORT STROKE OVERLAY
A7D0aLATIN CAPITAL LETTER CLOSED INSULAR GbSMALL LETTER CLOSED INSULAR G
A7D3aLATIN SMALL LETTER DOUBLE THORN
A7D5aLATIN SMALL LETTER DOUBLE WYNNbCAPITAL LETTER MIDDLE SCOTS S
A7D7aLATIN SMALL LETTER MIDDLE SCOTS SbCAPITAL LETTER SIGMOID S
A7D9aLATIN SMALL LETTER SIGMOID S
A7F2aMODIFIER LETTER CAPITAL CdFdQaLATIN CAPITAL LETTER REVERSED HALF H
A7F6aLATIN SMALL LETTER REVERSED HALF HbEPIGRAPHIC LETTER SIDEWAYS I
A7F8aMODIFIER LETTER CAPITAL H WITH STROKEcSMALL LIGATURE OE
A7FAaLATIN LETTER SMALL CAPITAL TURNED MbEPIGRAPHIC LETTER REVERSED FeP
A7FDaLATIN EPIGRAPHIC LETTER INVERTED MdI LONGAdARCHAIC M
A800aSYLOTI NAGRI LETTER AdIcSIGN DVISVARAcLETTER UdEdOcSIGN HASANTAcLETTER KO
A808aSYLOTI NAGRI LETTER KHOdGOdGHOcSIGN ANUSVARAcLETTER COdCHOdJOdJHOdTTO
A811aSYLOTI NAGRI LETTER TTHOdDDOdDDHOdTOdTHOdDOdDHOdNOdPOdPHOdBOdBHOdMOdROdLO
A820aSYLOTI NAGRI LETTER RROdSOdHOcVOWEL SIGN AeIeUeEeOOcPOETRY MARK-1e2e3e4
A82CaSYLOTI NAGRI SIGN ALTERNATE HASANTA
A830aNORTH INDIC FRACTION ONE QUARTEReHALFdTHREE QUARTERSdONE SIXTEENTHeEIGHTH
A835aNORTH INDIC FRACTION THREE SIXTEENTHScQUARTER MARKcPLACEHOLDER MARK
A838aNORTH INDIC RUPEE MARKcQUANTITY MARK
A840aPHAGS-PA LETTER KAdKHAdGAdNGAdCAdCHAdJAdNYAdTAdTHAdDAdNAdPAdPHAdBAdMAdTSA
A851aPHAGS-PA LETTER TSHAdDZAdWAdZHAdZAdSMALL AdYAdRAdLAdSHAdSAdHAdAdIdUdEdO
A862aPHAGS-PA LETTER QAdXAdFAdGGAdEEcSUBJOINED LETTER WAeYAcLETTER TTAdTTHA
A86BaPHAGS-PA LETTER DDAdNNAdALTERNATE YAdVOICELESS SHAdVOICED HAdASPIRATED FA
A871aPHAGS-PA SUBJOINED LETTER RAcSUPERFIXED LETTER RAcLETTER CANDRABINDU
A874aPHAGS-PA SINGLE HEAD MARKcDOUBLE HEAD MARKcMARK SHADdDOUBLE SHAD
A880aSAURASHTRA SIGN ANUSVARAcVISARGAbLETTER AdAcIdIcUdUcVOCALIC ReRdLeLcEdE
A88EaSAURASHTRA LETTER AIcOdOcAUcKAcKHAcGAcGHAcNGAcCAcCHAcJAcJHAcNYAcTTAcTTHA
A89EaSAURASHTRA LETTER DDAcDDHAcNNAcTAcTHAcDAcDHAcNAcPAcPHAcBAcBHAcMAcYAcRAcLA
A8AEaSAURASHTRA LETTER VAcSHAcSSAcSAcHAcLLAbCONSONANT SIGN HAARUbVOWEL SIGN AA
A8B6aSAURASHTRA VOWEL SIGN IeIdUeUdVOCALIC RfReLfLdEeEdAIdOeOdAUbSIGN VIRAMA
A8C5aSAURASHTRA SIGN CANDRABINDU
A8CEaSAURASHTRA DANDAbDOUBLE DANDAbDIGIT ZEROcONEcTWOcTHREEcFOURcFIVEcSIX
A8D7aSAURASHTRA DIGIT SEVENcEIGHTcNINE
A8E0aCOMBINING DEVANAGARI DIGIT ZEROdONEdTWOdTHREEdFOURdFIVEdSIXdSEVENdEIGHT
A8E9aCOMBINING DEVANAGARI DIGIT NINEcLETTER AdUdKAdNAdPAdRAdVIcSIGN AVAGRAHA
A8F2aDEVANAGARI SIGN SPACING CANDRABINDUcCANDRABINDU VIRAMA
A8F4aDEVANAGARI SIGN DOUBLE CANDRABINDU VIRAMAcCANDRABINDU TWOdTHREEdAVAGRAHA
A8F8aDEVANAGARI SIGN PUSHPIKAbGAP FILLERbCARETbHEADSTROKEbSIGN SIDDHAMbJAIN OM
A8FEaDEVANAGARI LETTER AYbVOWEL SIGN AYaKAYAH LI DIGIT ZEROdONEdTWOdTHREEdFOUR
A905aKAYAH LI DIGIT FIVEdSIXdSEVENdEIGHTdNINEcLETTER KAdKHAdGAdNGAdSAdSHAdZA
A911aKAYAH LI LETTER NYAdTAdHTAdNAdPAdPHAdMAdDAdBAdRAdYAdLAdWAdTHAdHAdVAdCAdA
A923aKAYAH LI LETTER OEdIdOOcVOWEL UEdEdUdEEdOcTONE PLOPHUdCALYAe PLOPHU
A92EaKAYAH LI SIGN CWIdSHYAaREJANG LETTER KAcGAcNGAcTAcDAcNAcPAcBAcMAcCAcJA
A93BaREJANG LETTER NYAcSAcRAcLAcYAcWAcHAcMBAcNGGAcNDAcNYJAcAbVOWEL SIGN IdUdE
A94AaREJANG VOWEL SIGN AIdOdAUdEUdEAbCONSONANT SIGN NGdNdRdHbVIRAMA
A95FaREJANG SECTION MARKaHANGUL CHOSEONG TIKEUT-MIEUMdPIEUPdSIOSdCIEUC
A964aHANGUL CHOSEONG RIEUL-KIYEOKdSSANGKIYEOKdTIKEUTdSSANGTIKEUTdMIEUMdPIEUP
A96AaHANGUL CHOSEONG RIEUL-SSANGPIEUPdKAPYEOUNPIEUPdSIOSdCIEUCdKHIEUKH
A96FaHANGUL CHOSEONG MIEUM-KIYEOKdTIKEUTdSIOScPIEUP-SIOS-THIEUTHdKHIEUKHdHIEUH
A975aHANGUL CHOSEONG SSANGSIOS-PIEUPcIEUNG-RIEULdHIEUHcSSANGCIEUC-HIEUH
A979aHANGUL CHOSEONG SSANGTHIEUTHcPHIEUPH-HIEUHcHIEUH-SIOScSSANGYEORINHIEUH
A980aJAVANESE SIGN PANYANGGAcCECAKcLAYARcWIGNYANbLETTER AcI KAWIcIdIcU
A989aJAVANESE LETTER PA CEREKcNGA LELETe RASWADIcEcAIcOcKAd SASAKdMURDAcGA
A993aJAVANESE LETTER GA MURDAcNGAcCAd MURDAcJAcNYA MURDAcJA MAHAPRANAcNYAcTTA
A99CaJAVANESE LETTER TTA MAHAPRANAcDDAd MAHAPRANAcNA MURDAcTAd MURDAcDA
A9A3aJAVANESE LETTER DA MAHAPRANAcNAcPAd MURDAcBAd MURDAcMAcYAcRAd AGUNGcLAcWA
A9AFaJAVANESE LETTER SA MURDAdMAHAPRANAcSAcHAbSIGN CECAK TELU
A9B4aJAVANESE VOWEL SIGN TARUNGdTOLONGdWULUe MELIKdSUKUe MENDUTdTALING
A9BBaJAVANESE VOWEL SIGN DIRGA MUREdPEPETbCONSONANT SIGN KERETdPENGKALdCAKRA
A9C0aJAVANESE PANGKONbLEFT RERENGGANbRIGHT RERENGGANbPADA ANDAPcMADYAcLUHUR
A9C6aJAVANESE PADA WINDUcPANGKATcLINGSAcLUNGSIcADEGd ADEGcPISELEH
A9CDaJAVANESE TURNED PADA PISELEH
A9CFaJAVANESE PANGRANGKEPbDIGIT ZEROcONEcTWOcTHREEcFOURcFIVEcSIXcSEVENcEIGHT
A9D9aJAVANESE DIGIT NINE
A9DEaJAVANESE PADA TIRTA TUMETEScISEN-ISENaMYANMAR LETTER SHAN GHAdCHAdJHAdNNA
A9E4aMYANMAR LETTER SHAN BHAbSIGN SHAN SAWbMODIFIER LETTER SHAN REDUPLICATION
A9E7aMYANMAR LETTER TAI LAING NYAeFAeGAeGHAeJAeJHAeDDAeDDHAeNNA
A9F0aMYANMAR TAI LAING DIGIT ZEROeONEeTWOeTHREEeFOUReFIVEeSIXeSEVENeEIGHTeNINE
A9FAaMYANMAR LETTER TAI LAING LLAeDAeDHAeBAeBHA
AA00aCHAM LETTER AcIcUcEcAIcOcKAcKHAcGAcGHAcNGUEcNGAcCHAcCHHAcJAcJHAcNHUEcNHA
AA12aCHAM LETTER NHJAcTAcTHAcDAcDHAcNUEcNAcDDAcPAcPPAcPHAcBAcBHAcMUEcMAcBBAcYA
AA23aCHAM LETTER RAcLAcVAcSSAcSAcHAbVOWEL SIGN AAdIeIdEIdUdOEdOdAIdAUdUE
AA33aCHAM CONSONANT SIGN YAdRAdLAdWA
AA40aCHAM LETTER FINAL KdGdNGbCONSONANT SIGN FINAL NGbLETTER FINAL CHdTdNdPdY
AA49aCHAM LETTER FINAL RdLdSSbCONSONANT SIGN FINAL MeH
AA50aCHAM DIGIT ZEROcONEcTWOcTHREEcFOURcFIVEcSIXcSEVENcEIGHTcNINE
AA5CaCHAM PUNCTUATION SPIRALcDANDAcDOUBLE DANDAcTRIPLE DANDA
AA60aMYANMAR LETTER KHAMTI GAdCAdCHAdJAdJHAdNYAdTTAdTTHAdDDAdDDHAdDHAdNAdSAdHA
AA6EaMYANMAR LETTER KHAMTI HHAdFAbMODIFIER LETTER KHAMTI REDUPLICATION
AA71aMYANMAR LETTER KHAMTI XAdZAdRAbLOGOGRAM KHAMTI OAYdQNdHM
AA77aMYANMAR SYMBOL AITON EXCLAMATIONdONEdTWObLETTER AITON RA
AA7BaMYANMAR SIGN PAO KAREN TONEcTAI LAING TONE-2f5bLETTER SHWE PALAUNG CHA
AA7FaMYANMAR LETTER SHWE PALAUNG SHAaTAI VIET LETTER LOW KOdHIGH KOdLOW KHO
AA83aTAI VIET LETTER HIGH KHOdLOW KHHOdHIGH KHHOdLOW GOdHIGH GOdLOW NGO
AA89aTAI VIET LETTER HIGH NGOdLOW COdHIGH COdLOW CHOdHIGH CHOdLOW SOdHIGH SO
AA90aTAI VIET LETTER LOW NYOdHIGH NYOdLOW DOdHIGH DOdLOW TOdHIGH TOdLOW THO
AA97aTAI VIET LETTER HIGH THOdLOW NOdHIGH NOdLOW BOdHIGH BOdLOW POdHIGH PO
AA9EaTAI VIET LETTER LOW PHOdHIGH PHOdLOW FOdHIGH FOdLOW MOdHIGH MOdLOW YO
AAA5aTAI VIET LETTER HIGH YOdLOW ROdHIGH ROdLOW LOdHIGH LOdLOW VOdHIGH VO
AAACaTAI VIET LETTER LOW HOdHIGH HOdLOW OdHIGH OcMAI KANGcVOWEL AAdIdUEdUdEdO
AAB7aTAI VIET MAI KHITcVOWEL IAdUEAdUAdAUEdAYdANdAMcTONE MAI EKeNUENGeTHOeSONG
AADBaTAI VIET SYMBOL KONdNUENGdSAMdHO HOIdKOI KOIaMEETEI MAYEK LETTER EdOdCHA
AAE3aMEETEI MAYEK LETTER NYAdTTAdTTHAdDDAdDDHAdNNAdSHAdSSAcVOWEL SIGN IIeUU
AAEDaMEETEI MAYEK VOWEL SIGN AAIeAUeAAUcCHEIKHANcAHANG KHUDAMcANJI
AAF3aMEETEI MAYEK SYLLABLE REPETITION MARKcWORD REPETITION MARK
AAF5aMEETEI MAYEK VOWEL SIGN VISARGAcVIRAMA
AB01aETHIOPIC SYLLABLE TTHUcTTHIcTTHAAcTTHEEcTTHEcTTHO
AB09aETHIOPIC SYLLABLE DDHUcDDHIcDDHAAcDDHEEcDDHEcDDHO
AB11aETHIOPIC SYLLABLE DZUcDZIcDZAAcDZEEcDZEcDZO
AB20aETHIOPIC SYLLABLE CCHHAcCCHHUcCCHHIcCCHHAAcCCHHEEcCCHHEcCCHHO
AB28aETHIOPIC SYLLABLE BBAcBBUcBBIcBBAAcBBEEcBBEcBBO
AB30aLATIN SMALL LETTER BARRED ALPHAdA REVERSED-SCHWAdBLACKLETTER EdBARRED E
AB34aLATIN SMALL LETTER E WITH FLOURISHdLENIS FdSCRIPT G WITH CROSSED-TAIL
AB37aLATIN SMALL LETTER L WITH INVERTED LAZY SfDOUBLE MIDDLE TILDEfMIDDLE RING
AB3AaLATIN SMALL LETTER M WITH CROSSED-TAILdN WITH CROSSED-TAIL
AB3CaLATIN SMALL LETTER ENG WITH CROSSED-TAILdBLACKLETTER Of WITH STROKE
AB3FaLATIN SMALL LETTER OPEN O WITH STROKEdINVERTED OEdTURNED OE WITH STROKE
AB42aLATIN SMALL LETTER TURNED OE WITH HORIZONTAL STROKEeO OPEN-Oh WITH STROKE
AB45aLATIN SMALL LETTER STIRRUP RbLETTER SMALL CAPITAL R WITH RIGHT LEG
AB47aLATIN SMALL LETTER R WITHOUT HANDLEdDOUBLE RdR WITH CROSSED-TAIL
AB4AaLATIN SMALL LETTER DOUBLE R WITH CROSSED-TAILdSCRIPT Rf WITH RING
AB4DaLATIN SMALL LETTER BASELINE ESHdU WITH SHORT RIGHT LEG
AB4FaLATIN SMALL LETTER U BAR WITH SHORT RIGHT LEGdUIdTURNED UI
AB52aLATIN SMALL LETTER U WITH LEFT HOOKdCHIe WITH LOW RIGHT RINGgLEFT SERIF
AB56aLATIN SMALL LETTER X WITH LOW RIGHT RINGfLONG LEFT LEG
AB58aLATIN SMALL LETTER X WITH LONG LEFT LEG AND LOW RIGHT RINGiWITH SERIF
AB5AaLATIN SMALL LETTER Y WITH SHORT RIGHT LEG
AB5BaMODIFIER BREVE WITH INVERTED BREVEbLETTER SMALL HENG
AB5DaMODIFIER LETTER SMALL L WITH INVERTED LAZY SfMIDDLE TILDE
AB5FaMODIFIER LETTER SMALL U WITH LEFT HOOKaLATIN SMALL LETTER SAKHA YAT
AB61aLATIN SMALL LETTER IOTIFIED EdOPEN OEdUOdINVERTED ALPHA
AB65aGREEK LETTER SMALL CAPITAL OMEGA
AB66aLATIN SMALL LETTER DZ DIGRAPH WITH RETROFLEX HOOK
AB67aLATIN SMALL LETTER TS DIGRAPH WITH RETROFLEX HOOK
AB68aLATIN SMALL LETTER TURNED R WITH MIDDLE TILDE
AB69aMODIFIER LETTER SMALL TURNED WcLEFT TACKcRIGHT TACK
AB70aCHEROKEE SMALL LETTER AdEdIdOdUdVdGAdKAdGEdGIdGOdGUdGVdHAdHEdHIdHOdHUdHV
AB83aCHEROKEE SMALL LETTER LAdLEdLIdLOdLUdLVdMAdMEdMIdMOdMUdNAdHNAdNAHdNEdNI
AB93aCHEROKEE SMALL LETTER NOdNUdNVdQUAdQUEdQUIdQUOdQUUdQUVdSAdSeEdSIdSOdSUdSV
ABA3aCHEROKEE SMALL LETTER DAdTAdDEdTEdDIdTIdDOdDUdDVdDLAdTLAdTLEdTLIdTLOdTLU
ABB2aCHEROKEE SMALL LETTER TLVdTSAdTSEdTSIdTSOdTSUdTSVdWAdWEdWIdWOdWUdWVdYA
ABC0aMEETEI MAYEK LETTER KOKdSAMdLAIdMITdPAdNAdCHILdTILdKHOUdNGOUdTHOUdWAI
ABCCaMEETEI MAYEK LETTER YANGdHUKdUNdIdPHAMdATIYAdGOKdJHAMdRAIdBAdJILdDILdGHOU
ABD9aMEETEI MAYEK LETTER DHOUdBHAMdKOK LONSUMdLAI LONSUMdMIT LONSUMdPA LONSUM
ABDFaMEETEI MAYEK LETTER NA LONSUMdTIL LONSUMdNGOU LONSUMdI LONSUM
ABE3aMEETEI MAYEK VOWEL SIGN ONAPeINAPeANAPeYENAPeSOUNAPeUNAPeCHEINAPeNUNG
ABEBaMEETEI MAYEK CHEIKHEIcLUM IYEKcAPUN IYEK
ABF0aMEETEI MAYEK DIGIT ZEROdONEdTWOdTHREEdFOURdFIVEdSIXdSEVENdEIGHTdNINE
D7B0aHANGUL JUNGSEONG O-YEOdO-IcYO-AeEdEOcU-YEOdI-IcYU-AEdOcEU-AdEOdEdOcI-YA-O
D7BEaHANGUL JUNGSEONG I-YAEdYEOdYEdO-IdYOdYUdIcARAEA-AdE
D7CBaHANGUL JONGSEONG NIEUN-RIEULdCHIEUCHcSSANGTIKEUTd-PIEUPcTIKEUT-PIEUPdSIOS
D7D1aHANGUL JONGSEONG TIKEUT-SIOS-KIYEOKdCIEUCdCHIEUCHdTHIEUTH
D7D5aHANGUL JONGSEONG RIEUL-SSANGKIYEOKdKIYEOK-HIEUHcSSANGRIEUL-KHIEUKH
D7D8aHANGUL JONGSEONG RIEUL-MIEUM-HIEUHdPIEUP-TIKEUTePHIEUPHdYESIEUNG
D7DCaHANGUL JONGSEONG RIEUL-YEORINHIEUH-HIEUHcKAPYEOUNRIEULcMIEUM-NIEUN
D7DFaHANGUL JONGSEONG MIEUM-SSANGNIEUNcSSANGMIEUMcMIEUM-PIEUP-SIOSdCIEUC
D7E3aHANGUL JONGSEONG PIEUP-TIKEUTdRIEUL-PHIEUPHdMIEUMcSSANGPIEUP
D7E7aHANGUL JONGSEONG PIEUP-SIOS-TIKEUTdCIEUCdCHIEUCHcSIOS-MIEUMdKAPYEOUNPIEUP
D7ECaHANGUL JONGSEONG SSANGSIOS-KIYEOKdTIKEUTcSIOS-PANSIOSdCIEUCdCHIEUCH
D7F1aHANGUL JONGSEONG SIOS-THIEUTHdHIEUHcPANSIOS-PIEUPdKAPYEOUNPIEUP
D7F5aHANGUL JONGSEONG YESIEUNG-MIEUMdHIEUHcCIEUC-PIEUPdSSANGPIEUPcSSANGCIEUC
D7FAaHANGUL JONGSEONG PHIEUPH-SIOSdTHIEUTH
F900aCJK COMPATIBILITY IDEOGRAPH-F900dF901dF902dF903dF904dF905dF906dF907dF908
F909aCJK COMPATIBILITY IDEOGRAPH-F909dF90AdF90BdF90CdF90DdF90EdF90FdF910dF911
F912aCJK COMPATIBILITY IDEOGRAPH-F912dF913dF914dF915dF916dF917dF918dF919dF91A
F91BaCJK COMPATIBILITY IDEOGRAPH-F91BdF91CdF91DdF91EdF91FdF920dF921dF922dF923
F924aCJK COMPATIBILITY IDEOGRAPH-F924dF925dF926dF927dF928dF929dF92AdF92BdF92C
F92DaCJK COMPATIBILITY IDEOGRAPH-F92DdF92EdF92FdF930dF931dF932dF933dF934dF935
F936aCJK COMPATIBILITY IDEOGRAPH-F936dF937dF938dF939dF93AdF93BdF93CdF93DdF93E
F93FaCJK COMPATIBILITY IDEOGRAPH-F93FdF940dF941dF942dF943dF944dF945dF946dF947
F948aCJK COMPATIBILITY IDEOGRAPH-F948dF949dF94AdF94BdF94CdF94DdF94EdF94FdF950
F951aCJK COMPATIBILITY IDEOGRAPH-F951dF952dF953dF954dF955dF956dF957dF958dF959
F95AaCJK COMPATIBILITY IDEOGRAPH-F95AdF95BdF95CdF95DdF95EdF95FdF960dF961dF962
F963aCJK COMPATIBILITY IDEOGRAPH-F963dF964dF965dF966dF967dF968dF969dF96AdF96B
F96CaCJK COMPATIBILITY IDEOGRAPH-F96CdF96DdF96EdF96FdF970dF971dF972dF973dF974
F975aCJK COMPATIBILITY IDEOGRAPH-F975dF976dF977dF978dF979dF97AdF97BdF97CdF97D
F97EaCJK COMPATIBILITY IDEOGRAPH-F97EdF97FdF980dF981dF982dF983dF984dF985dF986
F987aCJK COMPATIBILITY IDEOGRAPH-F987dF988dF989dF98AdF98BdF98CdF98DdF98EdF98F
F990aCJK COMPATIBILITY IDEOGRAPH-F990dF991dF992dF993dF994dF995dF996dF997dF998
F999aCJK COMPATIBILITY IDEOGRAPH-F999dF99AdF99BdF99CdF99DdF99EdF99FdF9A0dF9A1
F9A2aCJK COMPATIBILITY IDEOGRAPH-F9A2dF9A3dF9A4dF9A5dF9A6dF9A7dF9A8dF9A9dF9AA
F9ABaCJK COMPATIBILITY IDEOGRAPH-F9ABdF9ACdF9ADdF9AEdF9AFdF9B0dF9B1dF9B2dF9B3
F9B4aCJK COMPATIBILITY IDEOGRAPH-F9B4dF9B5dF9B6dF9B7dF9B8dF9B9dF9BAdF9BBdF9BC
F9BDaCJK COMPATIBILITY IDEOGRAPH-F9BDdF9BEdF9BFdF9C0dF9C1dF9C2dF9C3dF9C4dF9C5
F9C6aCJK COMPATIBILITY IDEOGRAPH-F9C6dF9C7dF9C8dF9C9dF9CAdF9CBdF9CCdF9CDdF9CE
F9CFaCJK COMPATIBILITY IDEOGRAPH-F9CFdF9D0dF9D1dF9D2dF9D3dF9D4dF9D5dF9D6dF9D7
F9D8aCJK COMPATIBILITY IDEOGRAPH-F9D8dF9D9dF9DAdF9DBdF9DCdF9DDdF9DEdF9DFdF9E0
F9E1aCJK COMPATIBILITY IDEOGRAPH-F9E1dF9E2dF9E3dF9E4dF9E5dF9E6dF9E7dF9E8dF9E9
F9EAaCJK COMPATIBILITY IDEOGRAPH-F9EAdF9EBdF9ECdF9EDdF9EEdF9EFdF9F0dF9F1dF9F2
F9F3aCJK COMPATIBILITY IDEOGRAPH-F9F3dF9F4dF9F5dF9F6dF9F7dF9F8dF9F9dF9FAdF9FB
F9FCaCJK COMPATIBILITY IDEOGRAPH-F9FCdF9FDdF9FEdF9FFdFA00dFA01dFA02dFA03dFA04
FA05aCJK COMPATIBILITY IDEOGRAPH-FA05dFA06dFA07dFA08dFA09dFA0AdFA0BdFA0CdFA0D
FA0EaCJK COMPATIBILITY IDEOGRAPH-FA0EdFA0FdFA10dFA11dFA12dFA13dFA14dFA15dFA16
FA17aCJK COMPATIBILITY IDEOGRAPH-FA17dFA18dFA19dFA1AdFA1BdFA1CdFA1DdFA1EdFA1F
FA20aCJK COMPATIBILITY IDEOGRAPH-FA20dFA21dFA22dFA23dFA24dFA25dFA26dFA27dFA28
FA29aCJK COMPATIBILITY IDEOGRAPH-FA29dFA2AdFA2BdFA2CdFA2DdFA2EdFA2FdFA30dFA31
FA32aCJK COMPATIBILITY IDEOGRAPH-FA32dFA33dFA34dFA35dFA36dFA37dFA38dFA39dFA3A
FA3BaCJK COMPATIBILITY IDEOGRAPH-FA3BdFA3CdFA3DdFA3EdFA3FdFA40dFA41dFA42dFA43
FA44aCJK COMPATIBILITY IDEOGRAPH-FA44dFA45dFA46dFA47dFA48dFA49dFA4AdFA4BdFA4C
FA4DaCJK COMPATIBILITY IDEOGRAPH-FA4DdFA4EdFA4FdFA50dFA51dFA52dFA53dFA54dFA55
FA56aCJK COMPATIBILITY IDEOGRAPH-FA56dFA57dFA58dFA59dFA5AdFA5BdFA5CdFA5DdFA5E
FA5FaCJK COMPATIBILITY IDEOGRAPH-FA5FdFA60dFA61dFA62dFA63dFA64dFA65dFA66dFA67
FA68aCJK COMPATIBILITY IDEOGRAPH-FA68dFA69dFA6AdFA6BdFA6CdFA6D
FA70aCJK COMPATIBILITY IDEOGRAPH-FA70dFA71dFA72dFA73dFA74dFA75dFA76dFA77dFA78
FA79aCJK COMPATIBILITY IDEOGRAPH-FA79dFA7AdFA7BdFA7CdFA7DdFA7EdFA7FdFA80dFA81
FA82aCJK COMPATIBILITY IDEOGRAPH-FA82dFA83dFA84dFA85dFA86dFA87dFA88dFA89dFA8A
FA8BaCJK COMPATIBILITY IDEOGRAPH-FA8BdFA8CdFA8DdFA8EdFA8FdFA90dFA91dFA92dFA93
FA94aCJK COMPATIBILITY IDEOGRAPH-FA94dFA95dFA96dFA97dFA98dFA99dFA9AdFA9BdFA9C
FA9DaCJK COMPATIBILITY IDEOGRAPH-FA9DdFA9EdFA9FdFAA0dFAA1dFAA2dFAA3dFAA4dFAA5
FAA6aCJK COMPATIBILITY IDEOGRAPH-FAA6dFAA7dFAA8dFAA9dFAAAdFAABdFAACdFAADdFAAE
FAAFaCJK COMPATIBILITY IDEOGRAPH-FAAFdFAB0dFAB1dFAB2dFAB3dFAB4dFAB5dFAB6dFAB7
FAB8aCJK COMPATIBILITY IDEOGRAPH-FAB8dFAB9dFABAdFABBdFABCdFABDdFABEdFABFdFAC0
FAC1aCJK COMPATIBILITY IDEOGRAPH-FAC1dFAC2dFAC3dFAC4dFAC5dFAC6dFAC7dFAC8dFAC9
FACAaCJK COMPATIBILITY IDEOGRAPH-FACAdFACBdFACCdFACDdFACEdFACFdFAD0dFAD1dFAD2
FAD3aCJK COMPATIBILITY IDEOGRAPH-FAD3dFAD4dFAD5dFAD6dFAD7dFAD8dFAD9
FB00aLATIN SMALL LIGATURE FFdFIdFLdFFIdFFLdLONG S TdST
FB13aARMENIAN SMALL LIGATURE MEN NOWeECHeINIdVEW NOWdMEN XEH
FB1DaHEBREW LETTER YOD WITH HIRIQbPOINT JUDEO-SPANISH VARIKA
FB1FaHEBREW LIGATURE YIDDISH YOD YOD PATAHbLETTER ALTERNATIVE AYINcWIDE ALEF
FB22aHEBREW LETTER WIDE DALETdHEdKAFdLAMEDdFINAL MEMdRESHdTAV
FB29aHEBREW LETTER ALTERNATIVE PLUS SIGNcSHIN WITH SHIN DOTeSIN DOT
FB2CaHEBREW LETTER SHIN WITH DAGESH AND SHIN DOTgSIN DOTcALEF WITH PATAH
FB2FaHEBREW LETTER ALEF WITH QAMATSeMAPIQcBET WITH DAGESHcGIMEL WITH DAGESH
FB33aHEBREW LETTER DALET WITH DAGESHcHE WITH MAPIQcVAV WITH DAGESH
FB36aHEBREW LETTER ZAYIN WITH DAGESH
FB38aHEBREW LETTER TET WITH DAGESHcYOD WITH DAGESHcFINAL KAF WITH DAGESH
FB3BaHEBREW LETTER KAF WITH DAGESHcLAMED WITH DAGESH
FB3EaHEBREW LETTER MEM WITH DAGESH
FB40aHEBREW LETTER NUN WITH DAGESHcSAMEKH WITH DAGESH
FB43aHEBREW LETTER FINAL PE WITH DAGESHcPE WITH DAGESH
FB46aHEBREW LETTER TSADI WITH DAGESHcQOF WITH DAGESHcRESH WITH DAGESH
FB49aHEBREW LETTER SHIN WITH DAGESHcTAV WITH DAGESHcVAV WITH HOLAM
FB4CaHEBREW LETTER BET WITH RAFEcKAF WITH RAFEcPE WITH RAFE
FB4FaHEBREW LIGATURE ALEF LAMEDaARABIC LETTER ALEF WASLA ISOLATED FORM
FB51aARABIC LETTER ALEF WASLA FINAL FORMcBEEH ISOLATED FORMdFINAL FORM
FB54aARABIC LETTER BEEH INITIAL FORMdMEDIAL FORMcPEH ISOLATED FORMdFINAL FORM
FB58aARABIC LETTER PEH INITIAL FORMdMEDIAL FORMcBEHEH ISOLATED FORMdFINAL FORM
FB5CaARABIC LETTER BEHEH INITIAL FORMdMEDIAL FORMcTTEHEH ISOLATED FORM
FB5FaARABIC LETTER TTEHEH FINAL FORMdINITIAL FORMdMEDIAL FORM
FB62aARABIC LETTER TEHEH ISOLATED FORMdFINAL FORMdINITIAL FORMdMEDIAL FORM
FB66aARABIC LETTER TTEH ISOLATED FORMdFINAL FORMdINITIAL FORMdMEDIAL FORM
FB6AaARABIC LETTER VEH ISOLATED FORMdFINAL FORMdINITIAL FORMdMEDIAL FORM
FB6EaARABIC LETTER PEHEH ISOLATED FORMdFINAL FORMdINITIAL FORMdMEDIAL FORM
FB72aARABIC LETTER DYEH ISOLATED FORMdFINAL FORMdINITIAL FORMdMEDIAL FORM
FB76aARABIC LETTER NYEH ISOLATED FORMdFINAL FORMdINITIAL FORMdMEDIAL FORM
FB7AaARABIC LETTER TCHEH ISOLATED FORMdFINAL FORMdINITIAL FORMdMEDIAL FORM
FB7EaARABIC LETTER TCHEHEH ISOLATED FORMdFINAL FORMdINITIAL FORMdMEDIAL FORM
FB82aARABIC LETTER DDAHAL ISOLATED FORMdFINAL FORMcDAHAL ISOLATED FORM
FB85aARABIC LETTER DAHAL FINAL FORMcDUL ISOLATED FORMdFINAL FORM
FB88aARABIC LETTER DDAL ISOLATED FORMdFINAL FORMcJEH ISOLATED FORMdFINAL FORM
FB8CaARABIC LETTER RREH ISOLATED FORMdFINAL FORMcKEHEH ISOLATED FORM
FB8FaARABIC LETTER KEHEH FINAL FORMdINITIAL FORMdMEDIAL FORMcGAF ISOLATED FORM
FB93aARABIC LETTER GAF FINAL FORMdINITIAL FORMdMEDIAL FORMcGUEH ISOLATED FORM
FB97aARABIC LETTER GUEH FINAL FORMdINITIAL FORMdMEDIAL FORM
FB9AaARABIC LETTER NGOEH ISOLATED FORMdFINAL FORMdINITIAL FORMdMEDIAL FORM
FB9EaARABIC LETTER NOON GHUNNA ISOLATED FORMeFINAL FORMcRNOON ISOLATED FORM
FBA1aARABIC LETTER RNOON FINAL FORMdINITIAL FORMdMEDIAL FORM
FBA4aARABIC LETTER HEH WITH YEH ABOVE ISOLATED FORMgFINAL FORM
FBA6aARABIC LETTER HEH GOAL ISOLATED FORMeFINAL FORMeINITIAL FORMeMEDIAL FORM
FBAAaARABIC LETTER HEH DOACHASHMEE ISOLATED FORMeFINAL FORMeINITIAL FORM
FBADaARABIC LETTER HEH DOACHASHMEE MEDIAL FORMcYEH BARREE ISOLATED FORM
FBAFaARABIC LETTER YEH BARREE FINAL FORMeWITH HAMZA ABOVE ISOLATED FORM
FBB1aARABIC LETTER YEH BARREE WITH HAMZA ABOVE FINAL FORMbSYMBOL DOT ABOVE
FBB3aARABIC SYMBOL DOT BELOWcTWO DOTS ABOVEeBELOWcTHREE DOTS ABOVEeBELOW
FBB8aARABIC SYMBOL THREE DOTS POINTING DOWNWARDS ABOVEgBELOWcFOUR DOTS ABOVE
FBBBaARABIC SYMBOL FOUR DOTS BELOWcDOUBLE VERTICAL BAR BELOW
FBBDaARABIC SYMBOL TWO DOTS VERTICALLY ABOVEfBELOWcRINGcSMALL TAH ABOVEeBELOW
FBC2aARABIC SYMBOL WASLA ABOVE
FBD3aARABIC LETTER NG ISOLATED FORMdFINAL FORMdINITIAL FORMdMEDIAL FORM
FBD7aARABIC LETTER U ISOLATED FORMdFINAL FORMcOE ISOLATED FORMdFINAL FORM
FBDBaARABIC LETTER YU ISOLATED FORMdFINAL FORM
FBDDaARABIC LETTER U WITH HAMZA ABOVE ISOLATED FORMcVE ISOLATED FORM
FBDFaARABIC LETTER VE FINAL FORMcKIRGHIZ OE ISOLATED FORMeFINAL FORM
FBE2aARABIC LETTER KIRGHIZ YU ISOLATED FORMeFINAL FORMcE ISOLATED FORM
FBE5aARABIC LETTER E FINAL FORMdINITIAL FORMdMEDIAL FORM
FBE8aARABIC LETTER UIGHUR KAZAKH KIRGHIZ ALEF MAKSURA INITIAL FORMhMEDIAL FORM
FBEAaARABIC LIGATURE YEH WITH HAMZA ABOVE WITH ALEF ISOLATED FORMiFINAL FORM
FBECaARABIC LIGATURE YEH WITH HAMZA ABOVE WITH AE ISOLATED FORMiFINAL FORM
FBEEaARABIC LIGATURE YEH WITH HAMZA ABOVE WITH WAW ISOLATED FORMiFINAL FORM
FBF0aARABIC LIGATURE YEH WITH HAMZA ABOVE WITH U ISOLATED FORMiFINAL FORM
FBF2aARABIC LIGATURE YEH WITH HAMZA ABOVE WITH OE ISOLATED FORMiFINAL FORM
FBF4aARABIC LIGATURE YEH WITH HAMZA ABOVE WITH YU ISOLATED FORMiFINAL FORM
FBF6aARABIC LIGATURE YEH WITH HAMZA ABOVE WITH E ISOLATED FORMiFINAL FORM
FBF8aARABIC LIGATURE YEH WITH HAMZA ABOVE WITH E INITIAL FORM
FBF9aARABIC LIGATURE UIGHUR KIRGHIZ YEH WITH HAMZA ABOVE WITH ALEF MAKSURA " ++
"ISOLATED FORM
FBFAaARABIC LIGATURE UIGHUR KIRGHIZ YEH WITH HAMZA ABOVE WITH ALEF MAKSURA " ++
"FINAL FORM
FBFBaARABIC LIGATURE UIGHUR KIRGHIZ YEH WITH HAMZA ABOVE WITH ALEF MAKSURA " ++
"INITIAL FORM
FBFCaARABIC LETTER FARSI YEH ISOLATED FORMeFINAL FORMeINITIAL FORMeMEDIAL FORM
FC00aARABIC LIGATURE YEH WITH HAMZA ABOVE WITH JEEM ISOLATED FORM
FC01aARABIC LIGATURE YEH WITH HAMZA ABOVE WITH HAH ISOLATED FORM
FC02aARABIC LIGATURE YEH WITH HAMZA ABOVE WITH MEEM ISOLATED FORM
FC03aARABIC LIGATURE YEH WITH HAMZA ABOVE WITH ALEF MAKSURA ISOLATED FORM
FC04aARABIC LIGATURE YEH WITH HAMZA ABOVE WITH YEH ISOLATED FORM
FC05aARABIC LIGATURE BEH WITH JEEM ISOLATED FORMeHAH ISOLATED FORM
FC07aARABIC LIGATURE BEH WITH KHAH ISOLATED FORMeMEEM ISOLATED FORM
FC09aARABIC LIGATURE BEH WITH ALEF MAKSURA ISOLATED FORMeYEH ISOLATED FORM
FC0BaARABIC LIGATURE TEH WITH JEEM ISOLATED FORMeHAH ISOLATED FORM
FC0DaARABIC LIGATURE TEH WITH KHAH ISOLATED FORMeMEEM ISOLATED FORM
FC0FaARABIC LIGATURE TEH WITH ALEF MAKSURA ISOLATED FORMeYEH ISOLATED FORM
FC11aARABIC LIGATURE THEH WITH JEEM ISOLATED FORMeMEEM ISOLATED FORM
FC13aARABIC LIGATURE THEH WITH ALEF MAKSURA ISOLATED FORMeYEH ISOLATED FORM
FC15aARABIC LIGATURE JEEM WITH HAH ISOLATED FORMeMEEM ISOLATED FORM
FC17aARABIC LIGATURE HAH WITH JEEM ISOLATED FORMeMEEM ISOLATED FORM
FC19aARABIC LIGATURE KHAH WITH JEEM ISOLATED FORMeHAH ISOLATED FORM
FC1BaARABIC LIGATURE KHAH WITH MEEM ISOLATED FORMcSEEN WITH JEEM ISOLATED FORM
FC1DaARABIC LIGATURE SEEN WITH HAH ISOLATED FORMeKHAH ISOLATED FORM
FC1FaARABIC LIGATURE SEEN WITH MEEM ISOLATED FORMcSAD WITH HAH ISOLATED FORM
FC21aARABIC LIGATURE SAD WITH MEEM ISOLATED FORMcDAD WITH JEEM ISOLATED FORM
FC23aARABIC LIGATURE DAD WITH HAH ISOLATED FORMeKHAH ISOLATED FORM
FC25aARABIC LIGATURE DAD WITH MEEM ISOLATED FORMcTAH WITH HAH ISOLATED FORM
FC27aARABIC LIGATURE TAH WITH MEEM ISOLATED FORMcZAH WITH MEEM ISOLATED FORM
FC29aARABIC LIGATURE AIN WITH JEEM ISOLATED FORMeMEEM ISOLATED FORM
FC2BaARABIC LIGATURE GHAIN WITH JEEM ISOLATED FORMeMEEM ISOLATED FORM
FC2DaARABIC LIGATURE FEH WITH JEEM ISOLATED FORMeHAH ISOLATED FORM
FC2FaARABIC LIGATURE FEH WITH KHAH ISOLATED FORMeMEEM ISOLATED FORM
FC31aARABIC LIGATURE FEH WITH ALEF MAKSURA ISOLATED FORMeYEH ISOLATED FORM
FC33aARABIC LIGATURE QAF WITH HAH ISOLATED FORMeMEEM ISOLATED FORM
FC35aARABIC LIGATURE QAF WITH ALEF MAKSURA ISOLATED FORMeYEH ISOLATED FORM
FC37aARABIC LIGATURE KAF WITH ALEF ISOLATED FORMeJEEM ISOLATED FORM
FC39aARABIC LIGATURE KAF WITH HAH ISOLATED FORMeKHAH ISOLATED FORM
FC3BaARABIC LIGATURE KAF WITH LAM ISOLATED FORMeMEEM ISOLATED FORM
FC3DaARABIC LIGATURE KAF WITH ALEF MAKSURA ISOLATED FORMeYEH ISOLATED FORM
FC3FaARABIC LIGATURE LAM WITH JEEM ISOLATED FORMeHAH ISOLATED FORM
FC41aARABIC LIGATURE LAM WITH KHAH ISOLATED FORMeMEEM ISOLATED FORM
FC43aARABIC LIGATURE LAM WITH ALEF MAKSURA ISOLATED FORMeYEH ISOLATED FORM
FC45aARABIC LIGATURE MEEM WITH JEEM ISOLATED FORMeHAH ISOLATED FORM
FC47aARABIC LIGATURE MEEM WITH KHAH ISOLATED FORMeMEEM ISOLATED FORM
FC49aARABIC LIGATURE MEEM WITH ALEF MAKSURA ISOLATED FORMeYEH ISOLATED FORM
FC4BaARABIC LIGATURE NOON WITH JEEM ISOLATED FORMeHAH ISOLATED FORM
FC4DaARABIC LIGATURE NOON WITH KHAH ISOLATED FORMeMEEM ISOLATED FORM
FC4FaARABIC LIGATURE NOON WITH ALEF MAKSURA ISOLATED FORMeYEH ISOLATED FORM
FC51aARABIC LIGATURE HEH WITH JEEM ISOLATED FORMeMEEM ISOLATED FORM
FC53aARABIC LIGATURE HEH WITH ALEF MAKSURA ISOLATED FORMeYEH ISOLATED FORM
FC55aARABIC LIGATURE YEH WITH JEEM ISOLATED FORMeHAH ISOLATED FORM
FC57aARABIC LIGATURE YEH WITH KHAH ISOLATED FORMeMEEM ISOLATED FORM
FC59aARABIC LIGATURE YEH WITH ALEF MAKSURA ISOLATED FORMeYEH ISOLATED FORM
FC5BaARABIC LIGATURE THAL WITH SUPERSCRIPT ALEF ISOLATED FORM
FC5CaARABIC LIGATURE REH WITH SUPERSCRIPT ALEF ISOLATED FORM
FC5DaARABIC LIGATURE ALEF MAKSURA WITH SUPERSCRIPT ALEF ISOLATED FORM
FC5EaARABIC LIGATURE SHADDA WITH DAMMATAN ISOLATED FORMeKASRATAN ISOLATED FORM
FC60aARABIC LIGATURE SHADDA WITH FATHA ISOLATED FORMeDAMMA ISOLATED FORM
FC62aARABIC LIGATURE SHADDA WITH KASRA ISOLATED FORM
FC63aARABIC LIGATURE SHADDA WITH SUPERSCRIPT ALEF ISOLATED FORM
FC64aARABIC LIGATURE YEH WITH HAMZA ABOVE WITH REH FINAL FORMhZAIN FINAL FORM
FC66aARABIC LIGATURE YEH WITH HAMZA ABOVE WITH MEEM FINAL FORMhNOON FINAL FORM
FC68aARABIC LIGATURE YEH WITH HAMZA ABOVE WITH ALEF MAKSURA FINAL FORM
FC69aARABIC LIGATURE YEH WITH HAMZA ABOVE WITH YEH FINAL FORM
FC6AaARABIC LIGATURE BEH WITH REH FINAL FORMeZAIN FINAL FORMeMEEM FINAL FORM
FC6DaARABIC LIGATURE BEH WITH NOON FINAL FORMeALEF MAKSURA FINAL FORM
FC6FaARABIC LIGATURE BEH WITH YEH FINAL FORMcTEH WITH REH FINAL FORM
FC71aARABIC LIGATURE TEH WITH ZAIN FINAL FORMeMEEM FINAL FORMeNOON FINAL FORM
FC74aARABIC LIGATURE TEH WITH ALEF MAKSURA FINAL FORMeYEH FINAL FORM
FC76aARABIC LIGATURE THEH WITH REH FINAL FORMeZAIN FINAL FORMeMEEM FINAL FORM
FC79aARABIC LIGATURE THEH WITH NOON FINAL FORMeALEF MAKSURA FINAL FORM
FC7BaARABIC LIGATURE THEH WITH YEH FINAL FORMcFEH WITH ALEF MAKSURA FINAL FORM
FC7DaARABIC LIGATURE FEH WITH YEH FINAL FORMcQAF WITH ALEF MAKSURA FINAL FORM
FC7FaARABIC LIGATURE QAF WITH YEH FINAL FORMcKAF WITH ALEF FINAL FORM
FC81aARABIC LIGATURE KAF WITH LAM FINAL FORMeMEEM FINAL FORM
FC83aARABIC LIGATURE KAF WITH ALEF MAKSURA FINAL FORMeYEH FINAL FORM
FC85aARABIC LIGATURE LAM WITH MEEM FINAL FORMeALEF MAKSURA FINAL FORM
FC87aARABIC LIGATURE LAM WITH YEH FINAL FORMcMEEM WITH ALEF FINAL FORM
FC89aARABIC LIGATURE MEEM WITH MEEM FINAL FORMcNOON WITH REH FINAL FORM
FC8BaARABIC LIGATURE NOON WITH ZAIN FINAL FORMeMEEM FINAL FORMeNOON FINAL FORM
FC8EaARABIC LIGATURE NOON WITH ALEF MAKSURA FINAL FORMeYEH FINAL FORM
FC90aARABIC LIGATURE ALEF MAKSURA WITH SUPERSCRIPT ALEF FINAL FORM
FC91aARABIC LIGATURE YEH WITH REH FINAL FORMeZAIN FINAL FORMeMEEM FINAL FORM
FC94aARABIC LIGATURE YEH WITH NOON FINAL FORMeALEF MAKSURA FINAL FORM
FC96aARABIC LIGATURE YEH WITH YEH FINAL FORM
FC97aARABIC LIGATURE YEH WITH HAMZA ABOVE WITH JEEM INITIAL FORM
FC98aARABIC LIGATURE YEH WITH HAMZA ABOVE WITH HAH INITIAL FORM
FC99aARABIC LIGATURE YEH WITH HAMZA ABOVE WITH KHAH INITIAL FORM
FC9AaARABIC LIGATURE YEH WITH HAMZA ABOVE WITH MEEM INITIAL FORM
FC9BaARABIC LIGATURE YEH WITH HAMZA ABOVE WITH HEH INITIAL FORM
FC9CaARABIC LIGATURE BEH WITH JEEM INITIAL FORMeHAH INITIAL FORM
FC9EaARABIC LIGATURE BEH WITH KHAH INITIAL FORMeMEEM INITIAL FORM
FCA0aARABIC LIGATURE BEH WITH HEH INITIAL FORMcTEH WITH JEEM INITIAL FORM
FCA2aARABIC LIGATURE TEH WITH HAH INITIAL FORMeKHAH INITIAL FORM
FCA4aARABIC LIGATURE TEH WITH MEEM INITIAL FORMeHEH INITIAL FORM
FCA6aARABIC LIGATURE THEH WITH MEEM INITIAL FORMcJEEM WITH HAH INITIAL FORM
FCA8aARABIC LIGATURE JEEM WITH MEEM INITIAL FORMcHAH WITH JEEM INITIAL FORM
FCAAaARABIC LIGATURE HAH WITH MEEM INITIAL FORMcKHAH WITH JEEM INITIAL FORM
FCACaARABIC LIGATURE KHAH WITH MEEM INITIAL FORMcSEEN WITH JEEM INITIAL FORM
FCAEaARABIC LIGATURE SEEN WITH HAH INITIAL FORMeKHAH INITIAL FORM
FCB0aARABIC LIGATURE SEEN WITH MEEM INITIAL FORMcSAD WITH HAH INITIAL FORM
FCB2aARABIC LIGATURE SAD WITH KHAH INITIAL FORMeMEEM INITIAL FORM
FCB4aARABIC LIGATURE DAD WITH JEEM INITIAL FORMeHAH INITIAL FORM
FCB6aARABIC LIGATURE DAD WITH KHAH INITIAL FORMeMEEM INITIAL FORM
FCB8aARABIC LIGATURE TAH WITH HAH INITIAL FORMcZAH WITH MEEM INITIAL FORM
FCBAaARABIC LIGATURE AIN WITH JEEM INITIAL FORMeMEEM INITIAL FORM
FCBCaARABIC LIGATURE GHAIN WITH JEEM INITIAL FORMeMEEM INITIAL FORM
FCBEaARABIC LIGATURE FEH WITH JEEM INITIAL FORMeHAH INITIAL FORM
FCC0aARABIC LIGATURE FEH WITH KHAH INITIAL FORMeMEEM INITIAL FORM
FCC2aARABIC LIGATURE QAF WITH HAH INITIAL FORMeMEEM INITIAL FORM
FCC4aARABIC LIGATURE KAF WITH JEEM INITIAL FORMeHAH INITIAL FORM
FCC6aARABIC LIGATURE KAF WITH KHAH INITIAL FORMeLAM INITIAL FORM
FCC8aARABIC LIGATURE KAF WITH MEEM INITIAL FORMcLAM WITH JEEM INITIAL FORM
FCCAaARABIC LIGATURE LAM WITH HAH INITIAL FORMeKHAH INITIAL FORM
FCCCaARABIC LIGATURE LAM WITH MEEM INITIAL FORMeHEH INITIAL FORM
FCCEaARABIC LIGATURE MEEM WITH JEEM INITIAL FORMeHAH INITIAL FORM
FCD0aARABIC LIGATURE MEEM WITH KHAH INITIAL FORMeMEEM INITIAL FORM
FCD2aARABIC LIGATURE NOON WITH JEEM INITIAL FORMeHAH INITIAL FORM
FCD4aARABIC LIGATURE NOON WITH KHAH INITIAL FORMeMEEM INITIAL FORM
FCD6aARABIC LIGATURE NOON WITH HEH INITIAL FORMcHEH WITH JEEM INITIAL FORM
FCD8aARABIC LIGATURE HEH WITH MEEM INITIAL FORMeSUPERSCRIPT ALEF INITIAL FORM
FCDAaARABIC LIGATURE YEH WITH JEEM INITIAL FORMeHAH INITIAL FORM
FCDCaARABIC LIGATURE YEH WITH KHAH INITIAL FORMeMEEM INITIAL FORM
FCDEaARABIC LIGATURE YEH WITH HEH INITIAL FORM
FCDFaARABIC LIGATURE YEH WITH HAMZA ABOVE WITH MEEM MEDIAL FORM
FCE0aARABIC LIGATURE YEH WITH HAMZA ABOVE WITH HEH MEDIAL FORM
FCE1aARABIC LIGATURE BEH WITH MEEM MEDIAL FORMeHEH MEDIAL FORM
FCE3aARABIC LIGATURE TEH WITH MEEM MEDIAL FORMeHEH MEDIAL FORM
FCE5aARABIC LIGATURE THEH WITH MEEM MEDIAL FORMeHEH MEDIAL FORM
FCE7aARABIC LIGATURE SEEN WITH MEEM MEDIAL FORMeHEH MEDIAL FORM
FCE9aARABIC LIGATURE SHEEN WITH MEEM MEDIAL FORMeHEH MEDIAL FORM
FCEBaARABIC LIGATURE KAF WITH LAM MEDIAL FORMeMEEM MEDIAL FORM
FCEDaARABIC LIGATURE LAM WITH MEEM MEDIAL FORMcNOON WITH MEEM MEDIAL FORM
FCEFaARABIC LIGATURE NOON WITH HEH MEDIAL FORMcYEH WITH MEEM MEDIAL FORM
FCF1aARABIC LIGATURE YEH WITH HEH MEDIAL FORMcSHADDA WITH FATHA MEDIAL FORM
FCF3aARABIC LIGATURE SHADDA WITH DAMMA MEDIAL FORMeKASRA MEDIAL FORM
FCF5aARABIC LIGATURE TAH WITH ALEF MAKSURA ISOLATED FORMeYEH ISOLATED FORM
FCF7aARABIC LIGATURE AIN WITH ALEF MAKSURA ISOLATED FORMeYEH ISOLATED FORM
FCF9aARABIC LIGATURE GHAIN WITH ALEF MAKSURA ISOLATED FORMeYEH ISOLATED FORM
FCFBaARABIC LIGATURE SEEN WITH ALEF MAKSURA ISOLATED FORMeYEH ISOLATED FORM
FCFDaARABIC LIGATURE SHEEN WITH ALEF MAKSURA ISOLATED FORMeYEH ISOLATED FORM
FCFFaARABIC LIGATURE HAH WITH ALEF MAKSURA ISOLATED FORMeYEH ISOLATED FORM
FD01aARABIC LIGATURE JEEM WITH ALEF MAKSURA ISOLATED FORMeYEH ISOLATED FORM
FD03aARABIC LIGATURE KHAH WITH ALEF MAKSURA ISOLATED FORMeYEH ISOLATED FORM
FD05aARABIC LIGATURE SAD WITH ALEF MAKSURA ISOLATED FORMeYEH ISOLATED FORM
FD07aARABIC LIGATURE DAD WITH ALEF MAKSURA ISOLATED FORMeYEH ISOLATED FORM
FD09aARABIC LIGATURE SHEEN WITH JEEM ISOLATED FORMeHAH ISOLATED FORM
FD0BaARABIC LIGATURE SHEEN WITH KHAH ISOLATED FORMeMEEM ISOLATED FORM
FD0DaARABIC LIGATURE SHEEN WITH REH ISOLATED FORMcSEEN WITH REH ISOLATED FORM
FD0FaARABIC LIGATURE SAD WITH REH ISOLATED FORMcDAD WITH REH ISOLATED FORM
FD11aARABIC LIGATURE TAH WITH ALEF MAKSURA FINAL FORMeYEH FINAL FORM
FD13aARABIC LIGATURE AIN WITH ALEF MAKSURA FINAL FORMeYEH FINAL FORM
FD15aARABIC LIGATURE GHAIN WITH ALEF MAKSURA FINAL FORMeYEH FINAL FORM
FD17aARABIC LIGATURE SEEN WITH ALEF MAKSURA FINAL FORMeYEH FINAL FORM
FD19aARABIC LIGATURE SHEEN WITH ALEF MAKSURA FINAL FORMeYEH FINAL FORM
FD1BaARABIC LIGATURE HAH WITH ALEF MAKSURA FINAL FORMeYEH FINAL FORM
FD1DaARABIC LIGATURE JEEM WITH ALEF MAKSURA FINAL FORMeYEH FINAL FORM
FD1FaARABIC LIGATURE KHAH WITH ALEF MAKSURA FINAL FORMeYEH FINAL FORM
FD21aARABIC LIGATURE SAD WITH ALEF MAKSURA FINAL FORMeYEH FINAL FORM
FD23aARABIC LIGATURE DAD WITH ALEF MAKSURA FINAL FORMeYEH FINAL FORM
FD25aARABIC LIGATURE SHEEN WITH JEEM FINAL FORMeHAH FINAL FORMeKHAH FINAL FORM
FD28aARABIC LIGATURE SHEEN WITH MEEM FINAL FORMeREH FINAL FORM
FD2AaARABIC LIGATURE SEEN WITH REH FINAL FORMcSAD WITH REH FINAL FORM
FD2CaARABIC LIGATURE DAD WITH REH FINAL FORMcSHEEN WITH JEEM INITIAL FORM
FD2EaARABIC LIGATURE SHEEN WITH HAH INITIAL FORMeKHAH INITIAL FORM
FD30aARABIC LIGATURE SHEEN WITH MEEM INITIAL FORMcSEEN WITH HEH INITIAL FORM
FD32aARABIC LIGATURE SHEEN WITH HEH INITIAL FORMcTAH WITH MEEM INITIAL FORM
FD34aARABIC LIGATURE SEEN WITH JEEM MEDIAL FORMeHAH MEDIAL FORM
FD36aARABIC LIGATURE SEEN WITH KHAH MEDIAL FORMcSHEEN WITH JEEM MEDIAL FORM
FD38aARABIC LIGATURE SHEEN WITH HAH MEDIAL FORMeKHAH MEDIAL FORM
FD3AaARABIC LIGATURE TAH WITH MEEM MEDIAL FORMcZAH WITH MEEM MEDIAL FORM
FD3CaARABIC LIGATURE ALEF WITH FATHATAN FINAL FORMfISOLATED FORM
FD3EaORNATE LEFT PARENTHESISbRIGHT PARENTHESISaARABIC LIGATURE RAHIMAHU ALLAAH
FD41aARABIC LIGATURE RADI ALLAAHU ANHfAAeANHUMfAAeANHUNNA
FD46aARABIC LIGATURE SALLALLAAHU ALAYHI WA-AALIHcALAYHI AS-SALAAM
FD48aARABIC LIGATURE ALAYHIM AS-SALAAMcALAYHIMAA AS-SALAAM
FD4AaARABIC LIGATURE ALAYHI AS-SALAATU WAS-SALAAMcQUDDISA SIRRAH
FD4CaARABIC LIGATURE SALLALLAHU ALAYHI WAAALIHEE WA-SALLAMcALAYHAA AS-SALAAM
FD4EaARABIC LIGATURE TABAARAKA WA-TAAALAAcRAHIMAHUM ALLAAH
FD50aARABIC LIGATURE TEH WITH JEEM WITH MEEM INITIAL FORM
FD51aARABIC LIGATURE TEH WITH HAH WITH JEEM FINAL FORMhINITIAL FORM
FD53aARABIC LIGATURE TEH WITH HAH WITH MEEM INITIAL FORM
FD54aARABIC LIGATURE TEH WITH KHAH WITH MEEM INITIAL FORM
FD55aARABIC LIGATURE TEH WITH MEEM WITH JEEM INITIAL FORMgHAH INITIAL FORM
FD57aARABIC LIGATURE TEH WITH MEEM WITH KHAH INITIAL FORM
FD58aARABIC LIGATURE JEEM WITH MEEM WITH HAH FINAL FORMhINITIAL FORM
FD5AaARABIC LIGATURE HAH WITH MEEM WITH YEH FINAL FORMgALEF MAKSURA FINAL FORM
FD5CaARABIC LIGATURE SEEN WITH HAH WITH JEEM INITIAL FORM
FD5DaARABIC LIGATURE SEEN WITH JEEM WITH HAH INITIAL FORM
FD5EaARABIC LIGATURE SEEN WITH JEEM WITH ALEF MAKSURA FINAL FORM
FD5FaARABIC LIGATURE SEEN WITH MEEM WITH HAH FINAL FORMhINITIAL FORM
FD61aARABIC LIGATURE SEEN WITH MEEM WITH JEEM INITIAL FORMgMEEM FINAL FORM
FD63aARABIC LIGATURE SEEN WITH MEEM WITH MEEM INITIAL FORM
FD64aARABIC LIGATURE SAD WITH HAH WITH HAH FINAL FORMhINITIAL FORM
FD66aARABIC LIGATURE SAD WITH MEEM WITH MEEM FINAL FORM
FD67aARABIC LIGATURE SHEEN WITH HAH WITH MEEM FINAL FORMhINITIAL FORM
FD69aARABIC LIGATURE SHEEN WITH JEEM WITH YEH FINAL FORM
FD6AaARABIC LIGATURE SHEEN WITH MEEM WITH KHAH FINAL FORMhINITIAL FORM
FD6CaARABIC LIGATURE SHEEN WITH MEEM WITH MEEM FINAL FORMhINITIAL FORM
FD6EaARABIC LIGATURE DAD WITH HAH WITH ALEF MAKSURA FINAL FORM
FD6FaARABIC LIGATURE DAD WITH KHAH WITH MEEM FINAL FORMhINITIAL FORM
FD71aARABIC LIGATURE TAH WITH MEEM WITH HAH FINAL FORMhINITIAL FORM
FD73aARABIC LIGATURE TAH WITH MEEM WITH MEEM INITIAL FORMgYEH FINAL FORM
FD75aARABIC LIGATURE AIN WITH JEEM WITH MEEM FINAL FORM
FD76aARABIC LIGATURE AIN WITH MEEM WITH MEEM FINAL FORMhINITIAL FORM
FD78aARABIC LIGATURE AIN WITH MEEM WITH ALEF MAKSURA FINAL FORM
FD79aARABIC LIGATURE GHAIN WITH MEEM WITH MEEM FINAL FORMgYEH FINAL FORM
FD7BaARABIC LIGATURE GHAIN WITH MEEM WITH ALEF MAKSURA FINAL FORM
FD7CaARABIC LIGATURE FEH WITH KHAH WITH MEEM FINAL FORMhINITIAL FORM
FD7EaARABIC LIGATURE QAF WITH MEEM WITH HAH FINAL FORMgMEEM FINAL FORM
FD80aARABIC LIGATURE LAM WITH HAH WITH MEEM FINAL FORMgYEH FINAL FORM
FD82aARABIC LIGATURE LAM WITH HAH WITH ALEF MAKSURA FINAL FORM
FD83aARABIC LIGATURE LAM WITH JEEM WITH JEEM INITIAL FORMhFINAL FORM
FD85aARABIC LIGATURE LAM WITH KHAH WITH MEEM FINAL FORMhINITIAL FORM
FD87aARABIC LIGATURE LAM WITH MEEM WITH HAH FINAL FORMhINITIAL FORM
FD89aARABIC LIGATURE MEEM WITH HAH WITH JEEM INITIAL FORMgMEEM INITIAL FORM
FD8BaARABIC LIGATURE MEEM WITH HAH WITH YEH FINAL FORM
FD8CaARABIC LIGATURE MEEM WITH JEEM WITH HAH INITIAL FORMgMEEM INITIAL FORM
FD8EaARABIC LIGATURE MEEM WITH KHAH WITH JEEM INITIAL FORMgMEEM INITIAL FORM
FD92aARABIC LIGATURE MEEM WITH JEEM WITH KHAH INITIAL FORM
FD93aARABIC LIGATURE HEH WITH MEEM WITH JEEM INITIAL FORMgMEEM INITIAL FORM
FD95aARABIC LIGATURE NOON WITH HAH WITH MEEM INITIAL FORM
FD96aARABIC LIGATURE NOON WITH HAH WITH ALEF MAKSURA FINAL FORM
FD97aARABIC LIGATURE NOON WITH JEEM WITH MEEM FINAL FORMhINITIAL FORM
FD99aARABIC LIGATURE NOON WITH JEEM WITH ALEF MAKSURA FINAL FORM
FD9AaARABIC LIGATURE NOON WITH MEEM WITH YEH FINAL FORM
FD9BaARABIC LIGATURE NOON WITH MEEM WITH ALEF MAKSURA FINAL FORM
FD9CaARABIC LIGATURE YEH WITH MEEM WITH MEEM FINAL FORMhINITIAL FORM
FD9EaARABIC LIGATURE BEH WITH KHAH WITH YEH FINAL FORM
FD9FaARABIC LIGATURE TEH WITH JEEM WITH YEH FINAL FORMgALEF MAKSURA FINAL FORM
FDA1aARABIC LIGATURE TEH WITH KHAH WITH YEH FINAL FORMgALEF MAKSURA FINAL FORM
FDA3aARABIC LIGATURE TEH WITH MEEM WITH YEH FINAL FORMgALEF MAKSURA FINAL FORM
FDA5aARABIC LIGATURE JEEM WITH MEEM WITH YEH FINAL FORM
FDA6aARABIC LIGATURE JEEM WITH HAH WITH ALEF MAKSURA FINAL FORM
FDA7aARABIC LIGATURE JEEM WITH MEEM WITH ALEF MAKSURA FINAL FORM
FDA8aARABIC LIGATURE SEEN WITH KHAH WITH ALEF MAKSURA FINAL FORM
FDA9aARABIC LIGATURE SAD WITH HAH WITH YEH FINAL FORM
FDAAaARABIC LIGATURE SHEEN WITH HAH WITH YEH FINAL FORM
FDABaARABIC LIGATURE DAD WITH HAH WITH YEH FINAL FORM
FDACaARABIC LIGATURE LAM WITH JEEM WITH YEH FINAL FORM
FDADaARABIC LIGATURE LAM WITH MEEM WITH YEH FINAL FORM
FDAEaARABIC LIGATURE YEH WITH HAH WITH YEH FINAL FORMeJEEM WITH YEH FINAL FORM
FDB0aARABIC LIGATURE YEH WITH MEEM WITH YEH FINAL FORM
FDB1aARABIC LIGATURE MEEM WITH MEEM WITH YEH FINAL FORM
FDB2aARABIC LIGATURE QAF WITH MEEM WITH YEH FINAL FORM
FDB3aARABIC LIGATURE NOON WITH HAH WITH YEH FINAL FORM
FDB4aARABIC LIGATURE QAF WITH MEEM WITH HAH INITIAL FORM
FDB5aARABIC LIGATURE LAM WITH HAH WITH MEEM INITIAL FORM
FDB6aARABIC LIGATURE AIN WITH MEEM WITH YEH FINAL FORM
FDB7aARABIC LIGATURE KAF WITH MEEM WITH YEH FINAL FORM
FDB8aARABIC LIGATURE NOON WITH JEEM WITH HAH INITIAL FORM
FDB9aARABIC LIGATURE MEEM WITH KHAH WITH YEH FINAL FORM
FDBAaARABIC LIGATURE LAM WITH JEEM WITH MEEM INITIAL FORM
FDBBaARABIC LIGATURE KAF WITH MEEM WITH MEEM FINAL FORM
FDBCaARABIC LIGATURE LAM WITH JEEM WITH MEEM FINAL FORM
FDBDaARABIC LIGATURE NOON WITH JEEM WITH HAH FINAL FORM
FDBEaARABIC LIGATURE JEEM WITH HAH WITH YEH FINAL FORM
FDBFaARABIC LIGATURE HAH WITH JEEM WITH YEH FINAL FORM
FDC0aARABIC LIGATURE MEEM WITH JEEM WITH YEH FINAL FORM
FDC1aARABIC LIGATURE FEH WITH MEEM WITH YEH FINAL FORM
FDC2aARABIC LIGATURE BEH WITH HAH WITH YEH FINAL FORM
FDC3aARABIC LIGATURE KAF WITH MEEM WITH MEEM INITIAL FORM
FDC4aARABIC LIGATURE AIN WITH JEEM WITH MEEM INITIAL FORM
FDC5aARABIC LIGATURE SAD WITH MEEM WITH MEEM INITIAL FORM
FDC6aARABIC LIGATURE SEEN WITH KHAH WITH YEH FINAL FORM
FDC7aARABIC LIGATURE NOON WITH JEEM WITH YEH FINAL FORM
FDCFaARABIC LIGATURE SALAAMUHU ALAYNAA
FDF0aARABIC LIGATURE SALLA USED AS KORANIC STOP SIGN ISOLATED FORM
FDF1aARABIC LIGATURE QALA USED AS KORANIC STOP SIGN ISOLATED FORM
FDF2aARABIC LIGATURE ALLAH ISOLATED FORMcAKBAR ISOLATED FORM
FDF4aARABIC LIGATURE MOHAMMAD ISOLATED FORMcSALAM ISOLATED FORM
FDF6aARABIC LIGATURE RASOUL ISOLATED FORMcALAYHE ISOLATED FORM
FDF8aARABIC LIGATURE WASALLAM ISOLATED FORMcSALLA ISOLATED FORM
FDFAaARABIC LIGATURE SALLALLAHOU ALAYHE WASALLAMcJALLAJALALOUHOUaRIAL SIGN
FDFDaARABIC LIGATURE BISMILLAH AR-RAHMAN AR-RAHEEMcSUBHAANAHU WA TAAALAA
FDFFaARABIC LIGATURE AZZA WA JALLaVARIATION SELECTOR-1c2c3c4c5c6c7c8c9c10c11
FE0BaVARIATION SELECTOR-12c13c14c15c16aPRESENTATION FORM FOR VERTICAL COMMA
FE11aPRESENTATION FORM FOR VERTICAL IDEOGRAPHIC COMMAfFULL STOPeCOLON
FE14aPRESENTATION FORM FOR VERTICAL SEMICOLONeEXCLAMATION MARKeQUESTION MARK
FE17aPRESENTATION FORM FOR VERTICAL LEFT WHITE LENTICULAR BRACKET
FE18aPRESENTATION FORM FOR VERTICAL RIGHT WHITE LENTICULAR BRAKCET
FE19aPRESENTATION FORM FOR VERTICAL HORIZONTAL ELLIPSIS
FE20aCOMBINING LIGATURE LEFT HALFcRIGHT HALFbDOUBLE TILDE LEFT HALFdRIGHT HALF
FE24aCOMBINING MACRON LEFT HALFcRIGHT HALFbCONJOINING MACRON
FE27aCOMBINING LIGATURE LEFT HALF BELOWcRIGHT HALF BELOWbTILDE LEFT HALF BELOW
FE2AaCOMBINING TILDE RIGHT HALF BELOWbMACRON LEFT HALF BELOWcRIGHT HALF BELOW
FE2DaCOMBINING CONJOINING MACRON BELOWbCYRILLIC TITLO LEFT HALFdRIGHT HALF
FE30aPRESENTATION FORM FOR VERTICAL TWO DOT LEADEReEM DASHeEN DASHeLOW LINE
FE34aPRESENTATION FORM FOR VERTICAL WAVY LOW LINEeLEFT PARENTHESIS
FE36aPRESENTATION FORM FOR VERTICAL RIGHT PARENTHESISeLEFT CURLY BRACKET
FE38aPRESENTATION FORM FOR VERTICAL RIGHT CURLY BRACKET
FE39aPRESENTATION FORM FOR VERTICAL LEFT TORTOISE SHELL BRACKET
FE3AaPRESENTATION FORM FOR VERTICAL RIGHT TORTOISE SHELL BRACKET
FE3BaPRESENTATION FORM FOR VERTICAL LEFT BLACK LENTICULAR BRACKET
FE3CaPRESENTATION FORM FOR VERTICAL RIGHT BLACK LENTICULAR BRACKET
FE3DaPRESENTATION FORM FOR VERTICAL LEFT DOUBLE ANGLE BRACKET
FE3EaPRESENTATION FORM FOR VERTICAL RIGHT DOUBLE ANGLE BRACKET
FE3FaPRESENTATION FORM FOR VERTICAL LEFT ANGLE BRACKETeRIGHT ANGLE BRACKET
FE41aPRESENTATION FORM FOR VERTICAL LEFT CORNER BRACKETeRIGHT CORNER BRACKET
FE43aPRESENTATION FORM FOR VERTICAL LEFT WHITE CORNER BRACKET
FE44aPRESENTATION FORM FOR VERTICAL RIGHT WHITE CORNER BRACKETaSESAME DOT
FE46aWHITE SESAME DOTaPRESENTATION FORM FOR VERTICAL LEFT SQUARE BRACKET
FE48aPRESENTATION FORM FOR VERTICAL RIGHT SQUARE BRACKETaDASHED OVERLINE
FE4AaCENTRELINE OVERLINEaWAVY OVERLINEaDOUBLE WAVY OVERLINEaDASHED LOW LINE
FE4EaCENTRELINE LOW LINEaWAVY LOW LINEaSMALL COMMAbIDEOGRAPHIC COMMAbFULL STOP
FE54aSMALL SEMICOLONbCOLONbQUESTION MARKbEXCLAMATION MARKbEM DASH
FE59aSMALL LEFT PARENTHESISbRIGHT PARENTHESISbLEFT CURLY BRACKET
FE5CaSMALL RIGHT CURLY BRACKETbLEFT TORTOISE SHELL BRACKET
FE5EaSMALL RIGHT TORTOISE SHELL BRACKETbNUMBER SIGNbAMPERSANDbASTERISK
FE62aSMALL PLUS SIGNbHYPHEN-MINUSbLESS-THAN SIGNbGREATER-THAN SIGNbEQUALS SIGN
FE68aSMALL REVERSE SOLIDUSbDOLLAR SIGNbPERCENT SIGNbCOMMERCIAL AT
FE70aARABIC FATHATAN ISOLATED FORMbTATWEEL WITH FATHATAN ABOVE
FE72aARABIC DAMMATAN ISOLATED FORMbTAIL FRAGMENTbKASRATAN ISOLATED FORM
FE76aARABIC FATHA ISOLATED FORMcMEDIAL FORMbDAMMA ISOLATED FORMcMEDIAL FORM
FE7AaARABIC KASRA ISOLATED FORMcMEDIAL FORMbSHADDA ISOLATED FORMcMEDIAL FORM
FE7EaARABIC SUKUN ISOLATED FORMcMEDIAL FORMbLETTER HAMZA ISOLATED FORM
FE81aARABIC LETTER ALEF WITH MADDA ABOVE ISOLATED FORMgFINAL FORM
FE83aARABIC LETTER ALEF WITH HAMZA ABOVE ISOLATED FORMgFINAL FORM
FE85aARABIC LETTER WAW WITH HAMZA ABOVE ISOLATED FORMgFINAL FORM
FE87aARABIC LETTER ALEF WITH HAMZA BELOW ISOLATED FORMgFINAL FORM
FE89aARABIC LETTER YEH WITH HAMZA ABOVE ISOLATED FORMgFINAL FORMgINITIAL FORM
FE8CaARABIC LETTER YEH WITH HAMZA ABOVE MEDIAL FORMcALEF ISOLATED FORM
FE8EaARABIC LETTER ALEF FINAL FORMcBEH ISOLATED FORMdFINAL FORMdINITIAL FORM
FE92aARABIC LETTER BEH MEDIAL FORMcTEH MARBUTA ISOLATED FORMeFINAL FORM
FE95aARABIC LETTER TEH ISOLATED FORMdFINAL FORMdINITIAL FORMdMEDIAL FORM
FE99aARABIC LETTER THEH ISOLATED FORMdFINAL FORMdINITIAL FORMdMEDIAL FORM
FE9DaARABIC LETTER JEEM ISOLATED FORMdFINAL FORMdINITIAL FORMdMEDIAL FORM
FEA1aARABIC LETTER HAH ISOLATED FORMdFINAL FORMdINITIAL FORMdMEDIAL FORM
FEA5aARABIC LETTER KHAH ISOLATED FORMdFINAL FORMdINITIAL FORMdMEDIAL FORM
FEA9aARABIC LETTER DAL ISOLATED FORMdFINAL FORMcTHAL ISOLATED FORMdFINAL FORM
FEADaARABIC LETTER REH ISOLATED FORMdFINAL FORMcZAIN ISOLATED FORMdFINAL FORM
FEB1aARABIC LETTER SEEN ISOLATED FORMdFINAL FORMdINITIAL FORMdMEDIAL FORM
FEB5aARABIC LETTER SHEEN ISOLATED FORMdFINAL FORMdINITIAL FORMdMEDIAL FORM
FEB9aARABIC LETTER SAD ISOLATED FORMdFINAL FORMdINITIAL FORMdMEDIAL FORM
FEBDaARABIC LETTER DAD ISOLATED FORMdFINAL FORMdINITIAL FORMdMEDIAL FORM
FEC1aARABIC LETTER TAH ISOLATED FORMdFINAL FORMdINITIAL FORMdMEDIAL FORM
FEC5aARABIC LETTER ZAH ISOLATED FORMdFINAL FORMdINITIAL FORMdMEDIAL FORM
FEC9aARABIC LETTER AIN ISOLATED FORMdFINAL FORMdINITIAL FORMdMEDIAL FORM
FECDaARABIC LETTER GHAIN ISOLATED FORMdFINAL FORMdINITIAL FORMdMEDIAL FORM
FED1aARABIC LETTER FEH ISOLATED FORMdFINAL FORMdINITIAL FORMdMEDIAL FORM
FED5aARABIC LETTER QAF ISOLATED FORMdFINAL FORMdINITIAL FORMdMEDIAL FORM
FED9aARABIC LETTER KAF ISOLATED FORMdFINAL FORMdINITIAL FORMdMEDIAL FORM
FEDDaARABIC LETTER LAM ISOLATED FORMdFINAL FORMdINITIAL FORMdMEDIAL FORM
FEE1aARABIC LETTER MEEM ISOLATED FORMdFINAL FORMdINITIAL FORMdMEDIAL FORM
FEE5aARABIC LETTER NOON ISOLATED FORMdFINAL FORMdINITIAL FORMdMEDIAL FORM
FEE9aARABIC LETTER HEH ISOLATED FORMdFINAL FORMdINITIAL FORMdMEDIAL FORM
FEEDaARABIC LETTER WAW ISOLATED FORMdFINAL FORMcALEF MAKSURA ISOLATED FORM
FEF0aARABIC LETTER ALEF MAKSURA FINAL FORMcYEH ISOLATED FORMdFINAL FORM
FEF3aARABIC LETTER YEH INITIAL FORMdMEDIAL FORM
FEF5aARABIC LIGATURE LAM WITH ALEF WITH MADDA ABOVE ISOLATED FORMiFINAL FORM
FEF7aARABIC LIGATURE LAM WITH ALEF WITH HAMZA ABOVE ISOLATED FORMiFINAL FORM
FEF9aARABIC LIGATURE LAM WITH ALEF WITH HAMZA BELOW ISOLATED FORMiFINAL FORM
FEFBaARABIC LIGATURE LAM WITH ALEF ISOLATED FORMfFINAL FORM
FEFFaZERO WIDTH NO-BREAK SPACE
FF01aFULLWIDTH EXCLAMATION MARKbQUOTATION MARKbNUMBER SIGNbDOLLAR SIGN
FF05aFULLWIDTH PERCENT SIGNbAMPERSANDbAPOSTROPHEbLEFT PARENTHESIS
FF09aFULLWIDTH RIGHT PARENTHESISbASTERISKbPLUS SIGNbCOMMAbHYPHEN-MINUS
FF0EaFULLWIDTH FULL STOPbSOLIDUSbDIGIT ZEROcONEcTWOcTHREEcFOURcFIVEcSIXcSEVEN
FF18aFULLWIDTH DIGIT EIGHTcNINEbCOLONbSEMICOLONbLESS-THAN SIGNbEQUALS SIGN
FF1EaFULLWIDTH GREATER-THAN SIGNbQUESTION MARKbCOMMERCIAL AT
FF21aFULLWIDTH LATIN CAPITAL LETTER AeBeCeDeEeFeGeHeIeJeKeLeMeNeOePeQeReSeTeU
FF36aFULLWIDTH LATIN CAPITAL LETTER VeWeXeYeZbLEFT SQUARE BRACKET
FF3CaFULLWIDTH REVERSE SOLIDUSbRIGHT SQUARE BRACKETbCIRCUMFLEX ACCENTbLOW LINE
FF40aFULLWIDTH GRAVE ACCENTbLATIN SMALL LETTER AeBeCeDeEeFeGeHeIeJeKeLeMeNeOeP
FF51aFULLWIDTH LATIN SMALL LETTER QeReSeTeUeVeWeXeYeZbLEFT CURLY BRACKET
FF5CaFULLWIDTH VERTICAL LINEbRIGHT CURLY BRACKETbTILDEbLEFT WHITE PARENTHESIS
FF60aFULLWIDTH RIGHT WHITE PARENTHESISaHALFWIDTH IDEOGRAPHIC FULL STOP
FF62aHALFWIDTH LEFT CORNER BRACKETbRIGHT CORNER BRACKETbIDEOGRAPHIC COMMA
FF65aHALFWIDTH KATAKANA MIDDLE DOTcLETTER WOdSMALL AeIeUeEeOeYAeYUeYOeTU
FF70aHALFWIDTH KATAKANA-HIRAGANA PROLONGED SOUND MARKbKATAKANA LETTER AdIdUdE
FF75aHALFWIDTH KATAKANA LETTER OdKAdKIdKUdKEdKOdSAdSIdSUdSEdSOdTAdTIdTUdTEdTO
FF85aHALFWIDTH KATAKANA LETTER NAdNIdNUdNEdNOdHAdHIdHUdHEdHOdMAdMIdMUdMEdMOdYA
FF95aHALFWIDTH KATAKANA LETTER YUdYOdRAdRIdRUdREdROdWAdNcVOICED SOUND MARK
FF9FaHALFWIDTH KATAKANA SEMI-VOICED SOUND MARKbHANGUL FILLERcLETTER KIYEOK
FFA2aHALFWIDTH HANGUL LETTER SSANGKIYEOKdKIYEOK-SIOSdNIEUNe-CIEUCeHIEUHdTIKEUT
FFA8aHALFWIDTH HANGUL LETTER SSANGTIKEUTdRIEULe-KIYEOKeMIEUMePIEUPeSIOS
FFAEaHALFWIDTH HANGUL LETTER RIEUL-THIEUTHePHIEUPHeHIEUHdMIEUMdPIEUP
FFB3aHALFWIDTH HANGUL LETTER SSANGPIEUPdPIEUP-SIOSdSIOSdSSANGSIOSdIEUNGdCIEUC
FFB9aHALFWIDTH HANGUL LETTER SSANGCIEUCdCHIEUCHdKHIEUKHdTHIEUTHdPHIEUPHdHIEUH
FFC2aHALFWIDTH HANGUL LETTER AeEdYAeEdEOdE
FFCAaHALFWIDTH HANGUL LETTER YEOdYEdOdWAeEdOE
FFD2aHALFWIDTH HANGUL LETTER YOdUdWEOdWEdWIdYU
FFDAaHALFWIDTH HANGUL LETTER EUdYIdI
FFE0aFULLWIDTH CENT SIGNbPOUND SIGNbNOT SIGNbMACRONbBROKEN BARbYEN SIGN
FFE6aFULLWIDTH WON SIGN
FFE8aHALFWIDTH FORMS LIGHT VERTICALbLEFTWARDS ARROWbUPWARDS ARROW
FFEBaHALFWIDTH RIGHTWARDS ARROWbDOWNWARDS ARROWbBLACK SQUAREbWHITE CIRCLE
FFF9aINTERLINEAR ANNOTATION ANCHORcSEPARATORcTERMINATOR
FFFCaOBJECT REPLACEMENT CHARACTERaREPLACEMENT CHARACTER"

end Purity.Text.CharName
