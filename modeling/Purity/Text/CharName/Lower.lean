/-
Names of the characters with code points below 2000, in hexadecimal, by
version 14.0 of the character database. Ideographs and Hangul syllables
are left out: their names follow a rule. Consumed by `CharName.lean`, which
says how a line is read.
-/
namespace Purity.Text.CharName

/-- The names, line by line. -/
def lowerText : String := "
20aSPACEaEXCLAMATION MARKaQUOTATION MARKaNUMBER SIGNaDOLLAR SIGNaPERCENT SIGN
26aAMPERSANDaAPOSTROPHEaLEFT PARENTHESISaRIGHT PARENTHESISaASTERISKaPLUS SIGN
2CaCOMMAaHYPHEN-MINUSaFULL STOPaSOLIDUSaDIGIT ZERObONEbTWObTHREEbFOURbFIVEbSIX
37aDIGIT SEVENbEIGHTbNINEaCOLONaSEMICOLONaLESS-THAN SIGNaEQUALS SIGN
3EaGREATER-THAN SIGNaQUESTION MARKaCOMMERCIAL ATaLATIN CAPITAL LETTER AdBdCdD
45aLATIN CAPITAL LETTER EdFdGdHdIdJdKdLdMdNdOdPdQdRdSdTdUdVdWdXdYdZ
5BaLEFT SQUARE BRACKETaREVERSE SOLIDUSaRIGHT SQUARE BRACKETaCIRCUMFLEX ACCENT
5FaLOW LINEaGRAVE ACCENTaLATIN SMALL LETTER AdBdCdDdEdFdGdHdIdJdKdLdMdNdOdPdQ
72aLATIN SMALL LETTER RdSdTdUdVdWdXdYdZaLEFT CURLY BRACKETaVERTICAL LINE
7DaRIGHT CURLY BRACKETaTILDE
A0aNO-BREAK SPACEaINVERTED EXCLAMATION MARKaCENT SIGNaPOUND SIGNaCURRENCY SIGN
A5aYEN SIGNaBROKEN BARaSECTION SIGNaDIAERESISaCOPYRIGHT SIGN
AAaFEMININE ORDINAL INDICATORaLEFT-POINTING DOUBLE ANGLE QUOTATION MARK
ACaNOT SIGNaSOFT HYPHENaREGISTERED SIGNaMACRONaDEGREE SIGNaPLUS-MINUS SIGN
B2aSUPERSCRIPT TWObTHREEaACUTE ACCENTaMICRO SIGNaPILCROW SIGNaMIDDLE DOT
B8aCEDILLAaSUPERSCRIPT ONEaMASCULINE ORDINAL INDICATOR
BBaRIGHT-POINTING DOUBLE ANGLE QUOTATION MARKaVULGAR FRACTION ONE QUARTERdHALF
BEaVULGAR FRACTION THREE QUARTERSaINVERTED QUESTION MARK
C0aLATIN CAPITAL LETTER A WITH GRAVEfACUTEfCIRCUMFLEXfTILDEfDIAERESIS
C5aLATIN CAPITAL LETTER A WITH RING ABOVEdAEdC WITH CEDILLAdE WITH GRAVEfACUTE
CAaLATIN CAPITAL LETTER E WITH CIRCUMFLEXfDIAERESISdI WITH GRAVEfACUTE
CEaLATIN CAPITAL LETTER I WITH CIRCUMFLEXfDIAERESISdETHdN WITH TILDE
D2aLATIN CAPITAL LETTER O WITH GRAVEfACUTEfCIRCUMFLEXfTILDEfDIAERESIS
D7aMULTIPLICATION SIGNaLATIN CAPITAL LETTER O WITH STROKEdU WITH GRAVEfACUTE
DBaLATIN CAPITAL LETTER U WITH CIRCUMFLEXfDIAERESISdY WITH ACUTEdTHORN
DFaLATIN SMALL LETTER SHARP SdA WITH GRAVEfACUTEfCIRCUMFLEXfTILDEfDIAERESIS
E5aLATIN SMALL LETTER A WITH RING ABOVEdAEdC WITH CEDILLAdE WITH GRAVEfACUTE
EAaLATIN SMALL LETTER E WITH CIRCUMFLEXfDIAERESISdI WITH GRAVEfACUTE
EEaLATIN SMALL LETTER I WITH CIRCUMFLEXfDIAERESISdETHdN WITH TILDE
F2aLATIN SMALL LETTER O WITH GRAVEfACUTEfCIRCUMFLEXfTILDEfDIAERESIS
F7aDIVISION SIGNaLATIN SMALL LETTER O WITH STROKEdU WITH GRAVEfACUTE
FBaLATIN SMALL LETTER U WITH CIRCUMFLEXfDIAERESISdY WITH ACUTEdTHORN
FFaLATIN SMALL LETTER Y WITH DIAERESISbCAPITAL LETTER A WITH MACRON
101aLATIN SMALL LETTER A WITH MACRONbCAPITAL LETTER A WITH BREVE
103aLATIN SMALL LETTER A WITH BREVEbCAPITAL LETTER A WITH OGONEK
105aLATIN SMALL LETTER A WITH OGONEKbCAPITAL LETTER C WITH ACUTE
107aLATIN SMALL LETTER C WITH ACUTEbCAPITAL LETTER C WITH CIRCUMFLEX
109aLATIN SMALL LETTER C WITH CIRCUMFLEXbCAPITAL LETTER C WITH DOT ABOVE
10BaLATIN SMALL LETTER C WITH DOT ABOVEbCAPITAL LETTER C WITH CARON
10DaLATIN SMALL LETTER C WITH CARONbCAPITAL LETTER D WITH CARON
10FaLATIN SMALL LETTER D WITH CARONbCAPITAL LETTER D WITH STROKE
111aLATIN SMALL LETTER D WITH STROKEbCAPITAL LETTER E WITH MACRON
113aLATIN SMALL LETTER E WITH MACRONbCAPITAL LETTER E WITH BREVE
115aLATIN SMALL LETTER E WITH BREVEbCAPITAL LETTER E WITH DOT ABOVE
117aLATIN SMALL LETTER E WITH DOT ABOVEbCAPITAL LETTER E WITH OGONEK
119aLATIN SMALL LETTER E WITH OGONEKbCAPITAL LETTER E WITH CARON
11BaLATIN SMALL LETTER E WITH CARONbCAPITAL LETTER G WITH CIRCUMFLEX
11DaLATIN SMALL LETTER G WITH CIRCUMFLEXbCAPITAL LETTER G WITH BREVE
11FaLATIN SMALL LETTER G WITH BREVEbCAPITAL LETTER G WITH DOT ABOVE
121aLATIN SMALL LETTER G WITH DOT ABOVEbCAPITAL LETTER G WITH CEDILLA
123aLATIN SMALL LETTER G WITH CEDILLAbCAPITAL LETTER H WITH CIRCUMFLEX
125aLATIN SMALL LETTER H WITH CIRCUMFLEXbCAPITAL LETTER H WITH STROKE
127aLATIN SMALL LETTER H WITH STROKEbCAPITAL LETTER I WITH TILDE
129aLATIN SMALL LETTER I WITH TILDEbCAPITAL LETTER I WITH MACRON
12BaLATIN SMALL LETTER I WITH MACRONbCAPITAL LETTER I WITH BREVE
12DaLATIN SMALL LETTER I WITH BREVEbCAPITAL LETTER I WITH OGONEK
12FaLATIN SMALL LETTER I WITH OGONEKbCAPITAL LETTER I WITH DOT ABOVE
131aLATIN SMALL LETTER DOTLESS IbCAPITAL LIGATURE IJbSMALL LIGATURE IJ
134aLATIN CAPITAL LETTER J WITH CIRCUMFLEXbSMALL LETTER J WITH CIRCUMFLEX
136aLATIN CAPITAL LETTER K WITH CEDILLAbSMALL LETTER K WITH CEDILLAdKRA
139aLATIN CAPITAL LETTER L WITH ACUTEbSMALL LETTER L WITH ACUTE
13BaLATIN CAPITAL LETTER L WITH CEDILLAbSMALL LETTER L WITH CEDILLA
13DaLATIN CAPITAL LETTER L WITH CARONbSMALL LETTER L WITH CARON
13FaLATIN CAPITAL LETTER L WITH MIDDLE DOTbSMALL LETTER L WITH MIDDLE DOT
141aLATIN CAPITAL LETTER L WITH STROKEbSMALL LETTER L WITH STROKE
143aLATIN CAPITAL LETTER N WITH ACUTEbSMALL LETTER N WITH ACUTE
145aLATIN CAPITAL LETTER N WITH CEDILLAbSMALL LETTER N WITH CEDILLA
147aLATIN CAPITAL LETTER N WITH CARONbSMALL LETTER N WITH CARON
149aLATIN SMALL LETTER N PRECEDED BY APOSTROPHEbCAPITAL LETTER ENG
14BaLATIN SMALL LETTER ENGbCAPITAL LETTER O WITH MACRON
14DaLATIN SMALL LETTER O WITH MACRONbCAPITAL LETTER O WITH BREVE
14FaLATIN SMALL LETTER O WITH BREVEbCAPITAL LETTER O WITH DOUBLE ACUTE
151aLATIN SMALL LETTER O WITH DOUBLE ACUTEbCAPITAL LIGATURE OE
153aLATIN SMALL LIGATURE OEbCAPITAL LETTER R WITH ACUTE
155aLATIN SMALL LETTER R WITH ACUTEbCAPITAL LETTER R WITH CEDILLA
157aLATIN SMALL LETTER R WITH CEDILLAbCAPITAL LETTER R WITH CARON
159aLATIN SMALL LETTER R WITH CARONbCAPITAL LETTER S WITH ACUTE
15BaLATIN SMALL LETTER S WITH ACUTEbCAPITAL LETTER S WITH CIRCUMFLEX
15DaLATIN SMALL LETTER S WITH CIRCUMFLEXbCAPITAL LETTER S WITH CEDILLA
15FaLATIN SMALL LETTER S WITH CEDILLAbCAPITAL LETTER S WITH CARON
161aLATIN SMALL LETTER S WITH CARONbCAPITAL LETTER T WITH CEDILLA
163aLATIN SMALL LETTER T WITH CEDILLAbCAPITAL LETTER T WITH CARON
165aLATIN SMALL LETTER T WITH CARONbCAPITAL LETTER T WITH STROKE
167aLATIN SMALL LETTER T WITH STROKEbCAPITAL LETTER U WITH TILDE
169aLATIN SMALL LETTER U WITH TILDEbCAPITAL LETTER U WITH MACRON
16BaLATIN SMALL LETTER U WITH MACRONbCAPITAL LETTER U WITH BREVE
16DaLATIN SMALL LETTER U WITH BREVEbCAPITAL LETTER U WITH RING ABOVE
16FaLATIN SMALL LETTER U WITH RING ABOVEbCAPITAL LETTER U WITH DOUBLE ACUTE
171aLATIN SMALL LETTER U WITH DOUBLE ACUTEbCAPITAL LETTER U WITH OGONEK
173aLATIN SMALL LETTER U WITH OGONEKbCAPITAL LETTER W WITH CIRCUMFLEX
175aLATIN SMALL LETTER W WITH CIRCUMFLEXbCAPITAL LETTER Y WITH CIRCUMFLEX
177aLATIN SMALL LETTER Y WITH CIRCUMFLEXbCAPITAL LETTER Y WITH DIAERESIS
179aLATIN CAPITAL LETTER Z WITH ACUTEbSMALL LETTER Z WITH ACUTE
17BaLATIN CAPITAL LETTER Z WITH DOT ABOVEbSMALL LETTER Z WITH DOT ABOVE
17DaLATIN CAPITAL LETTER Z WITH CARONbSMALL LETTER Z WITH CARONdLONG S
180aLATIN SMALL LETTER B WITH STROKEbCAPITAL LETTER B WITH HOOKfTOPBAR
183aLATIN SMALL LETTER B WITH TOPBARbCAPITAL LETTER TONE SIX
185aLATIN SMALL LETTER TONE SIXbCAPITAL LETTER OPEN OdC WITH HOOK
188aLATIN SMALL LETTER C WITH HOOKbCAPITAL LETTER AFRICAN DdD WITH HOOKfTOPBAR
18CaLATIN SMALL LETTER D WITH TOPBARdTURNED DELTAbCAPITAL LETTER REVERSED E
18FaLATIN CAPITAL LETTER SCHWAdOPEN EdF WITH HOOKbSMALL LETTER F WITH HOOK
193aLATIN CAPITAL LETTER G WITH HOOKdGAMMAbSMALL LETTER HVbCAPITAL LETTER IOTA
197aLATIN CAPITAL LETTER I WITH STROKEdK WITH HOOKbSMALL LETTER K WITH HOOK
19AaLATIN SMALL LETTER L WITH BARdLAMBDA WITH STROKEbCAPITAL LETTER TURNED M
19DaLATIN CAPITAL LETTER N WITH LEFT HOOKbSMALL LETTER N WITH LONG RIGHT LEG
19FaLATIN CAPITAL LETTER O WITH MIDDLE TILDEfHORNbSMALL LETTER O WITH HORN
1A2aLATIN CAPITAL LETTER OIbSMALL LETTER OIbCAPITAL LETTER P WITH HOOK
1A5aLATIN SMALL LETTER P WITH HOOKbLETTER YRbCAPITAL LETTER TONE TWO
1A8aLATIN SMALL LETTER TONE TWObCAPITAL LETTER ESHbLETTER REVERSED ESH LOOP
1ABaLATIN SMALL LETTER T WITH PALATAL HOOKbCAPITAL LETTER T WITH HOOK
1ADaLATIN SMALL LETTER T WITH HOOKbCAPITAL LETTER T WITH RETROFLEX HOOK
1AFaLATIN CAPITAL LETTER U WITH HORNbSMALL LETTER U WITH HORN
1B1aLATIN CAPITAL LETTER UPSILONdV WITH HOOKdY WITH HOOK
1B4aLATIN SMALL LETTER Y WITH HOOKbCAPITAL LETTER Z WITH STROKE
1B6aLATIN SMALL LETTER Z WITH STROKEbCAPITAL LETTER EZHe REVERSED
1B9aLATIN SMALL LETTER EZH REVERSEDeWITH TAILbLETTER TWO WITH STROKE
1BCaLATIN CAPITAL LETTER TONE FIVEbSMALL LETTER TONE FIVE
1BEaLATIN LETTER INVERTED GLOTTAL STOP WITH STROKEcWYNNcDENTAL CLICK
1C1aLATIN LETTER LATERAL CLICKcALVEOLAR CLICKcRETROFLEX CLICK
1C4aLATIN CAPITAL LETTER DZ WITH CARONdD WITH SMALL LETTER Z WITH CARON
1C6aLATIN SMALL LETTER DZ WITH CARONbCAPITAL LETTER LJdL WITH SMALL LETTER J
1C9aLATIN SMALL LETTER LJbCAPITAL LETTER NJdN WITH SMALL LETTER J
1CCaLATIN SMALL LETTER NJbCAPITAL LETTER A WITH CARON
1CEaLATIN SMALL LETTER A WITH CARONbCAPITAL LETTER I WITH CARON
1D0aLATIN SMALL LETTER I WITH CARONbCAPITAL LETTER O WITH CARON
1D2aLATIN SMALL LETTER O WITH CARONbCAPITAL LETTER U WITH CARON
1D4aLATIN SMALL LETTER U WITH CARONbCAPITAL LETTER U WITH DIAERESIS AND MACRON
1D6aLATIN SMALL LETTER U WITH DIAERESIS AND MACRON
1D7aLATIN CAPITAL LETTER U WITH DIAERESIS AND ACUTE
1D8aLATIN SMALL LETTER U WITH DIAERESIS AND ACUTE
1D9aLATIN CAPITAL LETTER U WITH DIAERESIS AND CARON
1DAaLATIN SMALL LETTER U WITH DIAERESIS AND CARON
1DBaLATIN CAPITAL LETTER U WITH DIAERESIS AND GRAVE
1DCaLATIN SMALL LETTER U WITH DIAERESIS AND GRAVEdTURNED E
1DEaLATIN CAPITAL LETTER A WITH DIAERESIS AND MACRON
1DFaLATIN SMALL LETTER A WITH DIAERESIS AND MACRON
1E0aLATIN CAPITAL LETTER A WITH DOT ABOVE AND MACRON
1E1aLATIN SMALL LETTER A WITH DOT ABOVE AND MACRON
1E2aLATIN CAPITAL LETTER AE WITH MACRONbSMALL LETTER AE WITH MACRON
1E4aLATIN CAPITAL LETTER G WITH STROKEbSMALL LETTER G WITH STROKE
1E6aLATIN CAPITAL LETTER G WITH CARONbSMALL LETTER G WITH CARON
1E8aLATIN CAPITAL LETTER K WITH CARONbSMALL LETTER K WITH CARON
1EAaLATIN CAPITAL LETTER O WITH OGONEKbSMALL LETTER O WITH OGONEK
1ECaLATIN CAPITAL LETTER O WITH OGONEK AND MACRON
1EDaLATIN SMALL LETTER O WITH OGONEK AND MACRONbCAPITAL LETTER EZH WITH CARON
1EFaLATIN SMALL LETTER EZH WITH CARONdJ WITH CARONbCAPITAL LETTER DZ
1F2aLATIN CAPITAL LETTER D WITH SMALL LETTER ZbSMALL LETTER DZ
1F4aLATIN CAPITAL LETTER G WITH ACUTEbSMALL LETTER G WITH ACUTE
1F6aLATIN CAPITAL LETTER HWAIRdWYNNdN WITH GRAVEbSMALL LETTER N WITH GRAVE
1FAaLATIN CAPITAL LETTER A WITH RING ABOVE AND ACUTE
1FBaLATIN SMALL LETTER A WITH RING ABOVE AND ACUTE
1FCaLATIN CAPITAL LETTER AE WITH ACUTEbSMALL LETTER AE WITH ACUTE
1FEaLATIN CAPITAL LETTER O WITH STROKE AND ACUTE
1FFaLATIN SMALL LETTER O WITH STROKE AND ACUTE
200aLATIN CAPITAL LETTER A WITH DOUBLE GRAVEbSMALL LETTER A WITH DOUBLE GRAVE
202aLATIN CAPITAL LETTER A WITH INVERTED BREVE
203aLATIN SMALL LETTER A WITH INVERTED BREVE
204aLATIN CAPITAL LETTER E WITH DOUBLE GRAVEbSMALL LETTER E WITH DOUBLE GRAVE
206aLATIN CAPITAL LETTER E WITH INVERTED BREVE
207aLATIN SMALL LETTER E WITH INVERTED BREVE
208aLATIN CAPITAL LETTER I WITH DOUBLE GRAVEbSMALL LETTER I WITH DOUBLE GRAVE
20AaLATIN CAPITAL LETTER I WITH INVERTED BREVE
20BaLATIN SMALL LETTER I WITH INVERTED BREVE
20CaLATIN CAPITAL LETTER O WITH DOUBLE GRAVEbSMALL LETTER O WITH DOUBLE GRAVE
20EaLATIN CAPITAL LETTER O WITH INVERTED BREVE
20FaLATIN SMALL LETTER O WITH INVERTED BREVE
210aLATIN CAPITAL LETTER R WITH DOUBLE GRAVEbSMALL LETTER R WITH DOUBLE GRAVE
212aLATIN CAPITAL LETTER R WITH INVERTED BREVE
213aLATIN SMALL LETTER R WITH INVERTED BREVE
214aLATIN CAPITAL LETTER U WITH DOUBLE GRAVEbSMALL LETTER U WITH DOUBLE GRAVE
216aLATIN CAPITAL LETTER U WITH INVERTED BREVE
217aLATIN SMALL LETTER U WITH INVERTED BREVEbCAPITAL LETTER S WITH COMMA BELOW
219aLATIN SMALL LETTER S WITH COMMA BELOWbCAPITAL LETTER T WITH COMMA BELOW
21BaLATIN SMALL LETTER T WITH COMMA BELOWbCAPITAL LETTER YOGH
21DaLATIN SMALL LETTER YOGHbCAPITAL LETTER H WITH CARON
21FaLATIN SMALL LETTER H WITH CARONbCAPITAL LETTER N WITH LONG RIGHT LEG
221aLATIN SMALL LETTER D WITH CURLbCAPITAL LETTER OUbSMALL LETTER OU
224aLATIN CAPITAL LETTER Z WITH HOOKbSMALL LETTER Z WITH HOOK
226aLATIN CAPITAL LETTER A WITH DOT ABOVEbSMALL LETTER A WITH DOT ABOVE
228aLATIN CAPITAL LETTER E WITH CEDILLAbSMALL LETTER E WITH CEDILLA
22AaLATIN CAPITAL LETTER O WITH DIAERESIS AND MACRON
22BaLATIN SMALL LETTER O WITH DIAERESIS AND MACRON
22CaLATIN CAPITAL LETTER O WITH TILDE AND MACRON
22DaLATIN SMALL LETTER O WITH TILDE AND MACRONbCAPITAL LETTER O WITH DOT ABOVE
22FaLATIN SMALL LETTER O WITH DOT ABOVE
230aLATIN CAPITAL LETTER O WITH DOT ABOVE AND MACRON
231aLATIN SMALL LETTER O WITH DOT ABOVE AND MACRON
232aLATIN CAPITAL LETTER Y WITH MACRONbSMALL LETTER Y WITH MACRONdL WITH CURL
235aLATIN SMALL LETTER N WITH CURLdT WITH CURLdDOTLESS JdDB DIGRAPHdQP DIGRAPH
23AaLATIN CAPITAL LETTER A WITH STROKEdC WITH STROKE
23CaLATIN SMALL LETTER C WITH STROKEbCAPITAL LETTER L WITH BAR
23EaLATIN CAPITAL LETTER T WITH DIAGONAL STROKEbSMALL LETTER S WITH SWASH TAIL
240aLATIN SMALL LETTER Z WITH SWASH TAILbCAPITAL LETTER GLOTTAL STOP
242aLATIN SMALL LETTER GLOTTAL STOPbCAPITAL LETTER B WITH STROKEdU BAR
245aLATIN CAPITAL LETTER TURNED VdE WITH STROKEbSMALL LETTER E WITH STROKE
248aLATIN CAPITAL LETTER J WITH STROKEbSMALL LETTER J WITH STROKE
24AaLATIN CAPITAL LETTER SMALL Q WITH HOOK TAILbSMALL LETTER Q WITH HOOK TAIL
24CaLATIN CAPITAL LETTER R WITH STROKEbSMALL LETTER R WITH STROKE
24EaLATIN CAPITAL LETTER Y WITH STROKEbSMALL LETTER Y WITH STROKEdTURNED A
251aLATIN SMALL LETTER ALPHAdTURNED ALPHAdB WITH HOOKdOPEN OdC WITH CURL
256aLATIN SMALL LETTER D WITH TAILfHOOKdREVERSED EdSCHWAe WITH HOOKdOPEN E
25CaLATIN SMALL LETTER REVERSED OPEN Eg WITH HOOKdCLOSED REVERSED OPEN E
25FaLATIN SMALL LETTER DOTLESS J WITH STROKEdG WITH HOOKdSCRIPT G
262aLATIN LETTER SMALL CAPITAL GbSMALL LETTER GAMMAdRAMS HORNdTURNED H
266aLATIN SMALL LETTER H WITH HOOKdHENG WITH HOOKdI WITH STROKEdIOTA
26AaLATIN LETTER SMALL CAPITAL IbSMALL LETTER L WITH MIDDLE TILDEfBELT
26DaLATIN SMALL LETTER L WITH RETROFLEX HOOKdLEZHdTURNED Mf WITH LONG LEG
271aLATIN SMALL LETTER M WITH HOOKdN WITH LEFT HOOKfRETROFLEX HOOK
274aLATIN LETTER SMALL CAPITAL NbSMALL LETTER BARRED ObLETTER SMALL CAPITAL OE
277aLATIN SMALL LETTER CLOSED OMEGAdPHIdTURNED Rf WITH LONG LEGgHOOK
27CaLATIN SMALL LETTER R WITH LONG LEGfTAILfFISHHOOKdREVERSED R WITH FISHHOOK
280aLATIN LETTER SMALL CAPITAL ReINVERTED RbSMALL LETTER S WITH HOOKdESH
284aLATIN SMALL LETTER DOTLESS J WITH STROKE AND HOOKdSQUAT REVERSED ESH
286aLATIN SMALL LETTER ESH WITH CURLdTURNED TdT WITH RETROFLEX HOOKdU BAR
28AaLATIN SMALL LETTER UPSILONdV WITH HOOKdTURNED VeWeYbLETTER SMALL CAPITAL Y
290aLATIN SMALL LETTER Z WITH RETROFLEX HOOKfCURLdEZHe WITH CURL
294aLATIN LETTER GLOTTAL STOPcPHARYNGEAL VOICED FRICATIVE
296aLATIN LETTER INVERTED GLOTTAL STOPcSTRETCHED CcBILABIAL CLICK
299aLATIN LETTER SMALL CAPITAL BbSMALL LETTER CLOSED OPEN E
29BaLATIN LETTER SMALL CAPITAL G WITH HOOKeHbSMALL LETTER J WITH CROSSED-TAIL
29EaLATIN SMALL LETTER TURNED KbLETTER SMALL CAPITAL L
2A0aLATIN SMALL LETTER Q WITH HOOKbLETTER GLOTTAL STOP WITH STROKE
2A2aLATIN LETTER REVERSED GLOTTAL STOP WITH STROKEbSMALL LETTER DZ DIGRAPH
2A4aLATIN SMALL LETTER DEZH DIGRAPHdDZ DIGRAPH WITH CURLdTS DIGRAPH
2A7aLATIN SMALL LETTER TESH DIGRAPHdTC DIGRAPH WITH CURLdFENG DIGRAPH
2AAaLATIN SMALL LETTER LS DIGRAPHdLZ DIGRAPHbLETTER BILABIAL PERCUSSIVE
2ADaLATIN LETTER BIDENTAL PERCUSSIVEbSMALL LETTER TURNED H WITH FISHHOOK
2AFaLATIN SMALL LETTER TURNED H WITH FISHHOOK AND TAILaMODIFIER LETTER SMALL H
2B1aMODIFIER LETTER SMALL H WITH HOOKdJdRdTURNED Rf WITH HOOK
2B6aMODIFIER LETTER SMALL CAPITAL INVERTED RdWdYcPRIMEcDOUBLE PRIME
2BBaMODIFIER LETTER TURNED COMMAcAPOSTROPHEcREVERSED COMMAcRIGHT HALF RING
2BFaMODIFIER LETTER LEFT HALF RINGcGLOTTAL STOPcREVERSED GLOTTAL STOP
2C2aMODIFIER LETTER LEFT ARROWHEADcRIGHT ARROWHEADcUP ARROWHEADcDOWN ARROWHEAD
2C6aMODIFIER LETTER CIRCUMFLEX ACCENTaCARONaMODIFIER LETTER VERTICAL LINE
2C9aMODIFIER LETTER MACRONcACUTE ACCENTcGRAVE ACCENTcLOW VERTICAL LINEdMACRON
2CEaMODIFIER LETTER LOW GRAVE ACCENTdACUTE ACCENTcTRIANGULAR COLON
2D1aMODIFIER LETTER HALF TRIANGULAR COLONcCENTRED RIGHT HALF RING
2D3aMODIFIER LETTER CENTRED LEFT HALF RINGcUP TACKcDOWN TACKcPLUS SIGN
2D7aMODIFIER LETTER MINUS SIGNaBREVEaDOT ABOVEaRING ABOVEaOGONEKaSMALL TILDE
2DDaDOUBLE ACUTE ACCENTaMODIFIER LETTER RHOTIC HOOKcCROSS ACCENTcSMALL GAMMAdL
2E2aMODIFIER LETTER SMALL SdXdREVERSED GLOTTAL STOPcEXTRA-HIGH TONE BAR
2E6aMODIFIER LETTER HIGH TONE BARcMID TONE BARcLOW TONE BARcEXTRA-LOW TONE BAR
2EAaMODIFIER LETTER YIN DEPARTING TONE MARKcYANG DEPARTING TONE MARKcVOICING
2EDaMODIFIER LETTER UNASPIRATEDcDOUBLE APOSTROPHEcLOW DOWN ARROWHEAD
2F0aMODIFIER LETTER LOW UP ARROWHEADdLEFT ARROWHEADdRIGHT ARROWHEADdRING
2F4aMODIFIER LETTER MIDDLE GRAVE ACCENTdDOUBLE GRAVE ACCENTeACUTE ACCENT
2F7aMODIFIER LETTER LOW TILDEcRAISED COLONcBEGIN HIGH TONEcEND HIGH TONE
2FBaMODIFIER LETTER BEGIN LOW TONEcEND LOW TONEcSHELFcOPEN SHELF
2FFaMODIFIER LETTER LOW LEFT ARROWaCOMBINING GRAVE ACCENTbACUTE ACCENT
302aCOMBINING CIRCUMFLEX ACCENTbTILDEbMACRONbOVERLINEbBREVEbDOT ABOVE
308aCOMBINING DIAERESISbHOOK ABOVEbRING ABOVEbDOUBLE ACUTE ACCENTbCARON
30DaCOMBINING VERTICAL LINE ABOVEbDOUBLE VERTICAL LINE ABOVEcGRAVE ACCENT
310aCOMBINING CANDRABINDUbINVERTED BREVEbTURNED COMMA ABOVEbCOMMA ABOVE
314aCOMBINING REVERSED COMMA ABOVEbCOMMA ABOVE RIGHTbGRAVE ACCENT BELOW
317aCOMBINING ACUTE ACCENT BELOWbLEFT TACK BELOWbRIGHT TACK BELOW
31AaCOMBINING LEFT ANGLE ABOVEbHORNbLEFT HALF RING BELOWbUP TACK BELOW
31EaCOMBINING DOWN TACK BELOWbPLUS SIGN BELOWbMINUS SIGN BELOW
321aCOMBINING PALATALIZED HOOK BELOWbRETROFLEX HOOK BELOWbDOT BELOW
324aCOMBINING DIAERESIS BELOWbRING BELOWbCOMMA BELOWbCEDILLAbOGONEK
329aCOMBINING VERTICAL LINE BELOWbBRIDGE BELOWbINVERTED DOUBLE ARCH BELOW
32CaCOMBINING CARON BELOWbCIRCUMFLEX ACCENT BELOWbBREVE BELOW
32FaCOMBINING INVERTED BREVE BELOWbTILDE BELOWbMACRON BELOWbLOW LINE
333aCOMBINING DOUBLE LOW LINEbTILDE OVERLAYbSHORT STROKE OVERLAY
336aCOMBINING LONG STROKE OVERLAYbSHORT SOLIDUS OVERLAYbLONG SOLIDUS OVERLAY
339aCOMBINING RIGHT HALF RING BELOWbINVERTED BRIDGE BELOWbSQUARE BELOW
33CaCOMBINING SEAGULL BELOWbX ABOVEbVERTICAL TILDEbDOUBLE OVERLINE
340aCOMBINING GRAVE TONE MARKbACUTE TONE MARKbGREEK PERISPOMENIcKORONIS
344aCOMBINING GREEK DIALYTIKA TONOScYPOGEGRAMMENIbBRIDGE ABOVE
347aCOMBINING EQUALS SIGN BELOWbDOUBLE VERTICAL LINE BELOWbLEFT ANGLE BELOW
34AaCOMBINING NOT TILDE ABOVEbHOMOTHETIC ABOVEbALMOST EQUAL TO ABOVE
34DaCOMBINING LEFT RIGHT ARROW BELOWbUPWARDS ARROW BELOWbGRAPHEME JOINER
350aCOMBINING RIGHT ARROWHEAD ABOVEbLEFT HALF RING ABOVEbFERMATAbX BELOW
354aCOMBINING LEFT ARROWHEAD BELOWbRIGHT ARROWHEAD BELOW
356aCOMBINING RIGHT ARROWHEAD AND UP ARROWHEAD BELOWcHALF RING ABOVE
358aCOMBINING DOT ABOVE RIGHTbASTERISK BELOWbDOUBLE RING BELOWbZIGZAG ABOVE
35CaCOMBINING DOUBLE BREVE BELOWcBREVEcMACRONd BELOWcTILDEcINVERTED BREVE
362aCOMBINING DOUBLE RIGHTWARDS ARROW BELOWbLATIN SMALL LETTER AeEeIeOeUeCeDeH
36BaCOMBINING LATIN SMALL LETTER MeReTeVeXaGREEK CAPITAL LETTER HETA
371aGREEK SMALL LETTER HETAbCAPITAL LETTER ARCHAIC SAMPI
373aGREEK SMALL LETTER ARCHAIC SAMPIbNUMERAL SIGNbLOWER NUMERAL SIGN
376aGREEK CAPITAL LETTER PAMPHYLIAN DIGAMMAbSMALL LETTER PAMPHYLIAN DIGAMMA
37AaGREEK YPOGEGRAMMENIbSMALL REVERSED LUNATE SIGMA SYMBOL
37CaGREEK SMALL DOTTED LUNATE SIGMA SYMBOLcREVERSED DOTTED LUNATE SIGMA SYMBOL
37EaGREEK QUESTION MARKbCAPITAL LETTER YOT
384aGREEK TONOSbDIALYTIKA TONOSbCAPITAL LETTER ALPHA WITH TONOSbANO TELEIA
388aGREEK CAPITAL LETTER EPSILON WITH TONOSdETA WITH TONOSdIOTA WITH TONOS
38CaGREEK CAPITAL LETTER OMICRON WITH TONOS
38EaGREEK CAPITAL LETTER UPSILON WITH TONOSdOMEGA WITH TONOS
390aGREEK SMALL LETTER IOTA WITH DIALYTIKA AND TONOSbCAPITAL LETTER ALPHAdBETA
393aGREEK CAPITAL LETTER GAMMAdDELTAdEPSILONdZETAdETAdTHETAdIOTAdKAPPAdLAMDA
39CaGREEK CAPITAL LETTER MUdNUdXIdOMICRONdPIdRHO
3A3aGREEK CAPITAL LETTER SIGMAdTAUdUPSILONdPHIdCHIdPSIdOMEGA
3AAaGREEK CAPITAL LETTER IOTA WITH DIALYTIKAdUPSILON WITH DIALYTIKA
3ACaGREEK SMALL LETTER ALPHA WITH TONOSdEPSILON WITH TONOSdETA WITH TONOS
3AFaGREEK SMALL LETTER IOTA WITH TONOSdUPSILON WITH DIALYTIKA AND TONOSdALPHA
3B2aGREEK SMALL LETTER BETAdGAMMAdDELTAdEPSILONdZETAdETAdTHETAdIOTAdKAPPA
3BBaGREEK SMALL LETTER LAMDAdMUdNUdXIdOMICRONdPIdRHOdFINAL SIGMAdSIGMAdTAU
3C5aGREEK SMALL LETTER UPSILONdPHIdCHIdPSIdOMEGAdIOTA WITH DIALYTIKA
3CBaGREEK SMALL LETTER UPSILON WITH DIALYTIKAdOMICRON WITH TONOS
3CDaGREEK SMALL LETTER UPSILON WITH TONOSdOMEGA WITH TONOSbCAPITAL KAI SYMBOL
3D0aGREEK BETA SYMBOLbTHETA SYMBOLbUPSILON WITH HOOK SYMBOL
3D3aGREEK UPSILON WITH ACUTE AND HOOK SYMBOLdDIAERESIS AND HOOK SYMBOL
3D5aGREEK PHI SYMBOLbPI SYMBOLbKAI SYMBOLbLETTER ARCHAIC KOPPA
3D9aGREEK SMALL LETTER ARCHAIC KOPPAbLETTER STIGMAbSMALL LETTER STIGMA
3DCaGREEK LETTER DIGAMMAbSMALL LETTER DIGAMMAbLETTER KOPPAbSMALL LETTER KOPPA
3E0aGREEK LETTER SAMPIbSMALL LETTER SAMPIaCOPTIC CAPITAL LETTER SHEI
3E3aCOPTIC SMALL LETTER SHEIbCAPITAL LETTER FEIbSMALL LETTER FEI
3E6aCOPTIC CAPITAL LETTER KHEIbSMALL LETTER KHEIbCAPITAL LETTER HORI
3E9aCOPTIC SMALL LETTER HORIbCAPITAL LETTER GANGIAbSMALL LETTER GANGIA
3ECaCOPTIC CAPITAL LETTER SHIMAbSMALL LETTER SHIMAbCAPITAL LETTER DEI
3EFaCOPTIC SMALL LETTER DEIaGREEK KAPPA SYMBOLbRHO SYMBOLbLUNATE SIGMA SYMBOL
3F3aGREEK LETTER YOTbCAPITAL THETA SYMBOLbLUNATE EPSILON SYMBOL
3F6aGREEK REVERSED LUNATE EPSILON SYMBOLbCAPITAL LETTER SHObSMALL LETTER SHO
3F9aGREEK CAPITAL LUNATE SIGMA SYMBOLcLETTER SANbSMALL LETTER SAN
3FCaGREEK RHO WITH STROKE SYMBOLbCAPITAL REVERSED LUNATE SIGMA SYMBOL
3FEaGREEK CAPITAL DOTTED LUNATE SIGMA SYMBOL
3FFaGREEK CAPITAL REVERSED DOTTED LUNATE SIGMA SYMBOL
400aCYRILLIC CAPITAL LETTER IE WITH GRAVEdIOdDJEdGJEdUKRAINIAN IEdDZE
406aCYRILLIC CAPITAL LETTER BYELORUSSIAN-UKRAINIAN IdYIdJEdLJEdNJEdTSHEdKJE
40DaCYRILLIC CAPITAL LETTER I WITH GRAVEdSHORT UdDZHEdAdBEdVEdGHEdDEdIEdZHEdZE
418aCYRILLIC CAPITAL LETTER IdSHORT IdKAdELdEMdENdOdPEdERdESdTEdUdEFdHAdTSE
427aCYRILLIC CAPITAL LETTER CHEdSHAdSHCHAdHARD SIGNdYERUdSOFT SIGNdEdYUdYA
430aCYRILLIC SMALL LETTER AdBEdVEdGHEdDEdIEdZHEdZEdIdSHORT IdKAdELdEMdENdOdPE
440aCYRILLIC SMALL LETTER ERdESdTEdUdEFdHAdTSEdCHEdSHAdSHCHAdHARD SIGNdYERU
44CaCYRILLIC SMALL LETTER SOFT SIGNdEdYUdYAdIE WITH GRAVEdIOdDJEdGJE
454aCYRILLIC SMALL LETTER UKRAINIAN IEdDZEdBYELORUSSIAN-UKRAINIAN IdYIdJEdLJE
45AaCYRILLIC SMALL LETTER NJEdTSHEdKJEdI WITH GRAVEdSHORT UdDZHE
460aCYRILLIC CAPITAL LETTER OMEGAbSMALL LETTER OMEGAbCAPITAL LETTER YAT
463aCYRILLIC SMALL LETTER YATbCAPITAL LETTER IOTIFIED E
465aCYRILLIC SMALL LETTER IOTIFIED EbCAPITAL LETTER LITTLE YUS
467aCYRILLIC SMALL LETTER LITTLE YUSbCAPITAL LETTER IOTIFIED LITTLE YUS
469aCYRILLIC SMALL LETTER IOTIFIED LITTLE YUSbCAPITAL LETTER BIG YUS
46BaCYRILLIC SMALL LETTER BIG YUSbCAPITAL LETTER IOTIFIED BIG YUS
46DaCYRILLIC SMALL LETTER IOTIFIED BIG YUSbCAPITAL LETTER KSIbSMALL LETTER KSI
470aCYRILLIC CAPITAL LETTER PSIbSMALL LETTER PSIbCAPITAL LETTER FITA
473aCYRILLIC SMALL LETTER FITAbCAPITAL LETTER IZHITSAbSMALL LETTER IZHITSA
476aCYRILLIC CAPITAL LETTER IZHITSA WITH DOUBLE GRAVE ACCENT
477aCYRILLIC SMALL LETTER IZHITSA WITH DOUBLE GRAVE ACCENTbCAPITAL LETTER UK
479aCYRILLIC SMALL LETTER UKbCAPITAL LETTER ROUND OMEGA
47BaCYRILLIC SMALL LETTER ROUND OMEGAbCAPITAL LETTER OMEGA WITH TITLO
47DaCYRILLIC SMALL LETTER OMEGA WITH TITLObCAPITAL LETTER OTbSMALL LETTER OT
480aCYRILLIC CAPITAL LETTER KOPPAbSMALL LETTER KOPPAbTHOUSANDS SIGN
483aCOMBINING CYRILLIC TITLOcPALATALIZATIONcDASIA PNEUMATAcPSILI PNEUMATA
487aCOMBINING CYRILLIC POKRYTIEcHUNDRED THOUSANDS SIGNcMILLIONS SIGN
48AaCYRILLIC CAPITAL LETTER SHORT I WITH TAILbSMALL LETTER SHORT I WITH TAIL
48CaCYRILLIC CAPITAL LETTER SEMISOFT SIGNbSMALL LETTER SEMISOFT SIGN
48EaCYRILLIC CAPITAL LETTER ER WITH TICKbSMALL LETTER ER WITH TICK
490aCYRILLIC CAPITAL LETTER GHE WITH UPTURNbSMALL LETTER GHE WITH UPTURN
492aCYRILLIC CAPITAL LETTER GHE WITH STROKEbSMALL LETTER GHE WITH STROKE
494aCYRILLIC CAPITAL LETTER GHE WITH MIDDLE HOOK
495aCYRILLIC SMALL LETTER GHE WITH MIDDLE HOOK
496aCYRILLIC CAPITAL LETTER ZHE WITH DESCENDERbSMALL LETTER ZHE WITH DESCENDER
498aCYRILLIC CAPITAL LETTER ZE WITH DESCENDERbSMALL LETTER ZE WITH DESCENDER
49AaCYRILLIC CAPITAL LETTER KA WITH DESCENDERbSMALL LETTER KA WITH DESCENDER
49CaCYRILLIC CAPITAL LETTER KA WITH VERTICAL STROKE
49DaCYRILLIC SMALL LETTER KA WITH VERTICAL STROKE
49EaCYRILLIC CAPITAL LETTER KA WITH STROKEbSMALL LETTER KA WITH STROKE
4A0aCYRILLIC CAPITAL LETTER BASHKIR KAbSMALL LETTER BASHKIR KA
4A2aCYRILLIC CAPITAL LETTER EN WITH DESCENDERbSMALL LETTER EN WITH DESCENDER
4A4aCYRILLIC CAPITAL LIGATURE EN GHEbSMALL LIGATURE EN GHE
4A6aCYRILLIC CAPITAL LETTER PE WITH MIDDLE HOOK
4A7aCYRILLIC SMALL LETTER PE WITH MIDDLE HOOKbCAPITAL LETTER ABKHASIAN HA
4A9aCYRILLIC SMALL LETTER ABKHASIAN HAbCAPITAL LETTER ES WITH DESCENDER
4ABaCYRILLIC SMALL LETTER ES WITH DESCENDERbCAPITAL LETTER TE WITH DESCENDER
4ADaCYRILLIC SMALL LETTER TE WITH DESCENDERbCAPITAL LETTER STRAIGHT U
4AFaCYRILLIC SMALL LETTER STRAIGHT UbCAPITAL LETTER STRAIGHT U WITH STROKE
4B1aCYRILLIC SMALL LETTER STRAIGHT U WITH STROKE
4B2aCYRILLIC CAPITAL LETTER HA WITH DESCENDERbSMALL LETTER HA WITH DESCENDER
4B4aCYRILLIC CAPITAL LIGATURE TE TSEbSMALL LIGATURE TE TSE
4B6aCYRILLIC CAPITAL LETTER CHE WITH DESCENDERbSMALL LETTER CHE WITH DESCENDER
4B8aCYRILLIC CAPITAL LETTER CHE WITH VERTICAL STROKE
4B9aCYRILLIC SMALL LETTER CHE WITH VERTICAL STROKEbCAPITAL LETTER SHHA
4BBaCYRILLIC SMALL LETTER SHHAbCAPITAL LETTER ABKHASIAN CHE
4BDaCYRILLIC SMALL LETTER ABKHASIAN CHE
4BEaCYRILLIC CAPITAL LETTER ABKHASIAN CHE WITH DESCENDER
4BFaCYRILLIC SMALL LETTER ABKHASIAN CHE WITH DESCENDERbLETTER PALOCHKA
4C1aCYRILLIC CAPITAL LETTER ZHE WITH BREVEbSMALL LETTER ZHE WITH BREVE
4C3aCYRILLIC CAPITAL LETTER KA WITH HOOKbSMALL LETTER KA WITH HOOK
4C5aCYRILLIC CAPITAL LETTER EL WITH TAILbSMALL LETTER EL WITH TAIL
4C7aCYRILLIC CAPITAL LETTER EN WITH HOOKbSMALL LETTER EN WITH HOOK
4C9aCYRILLIC CAPITAL LETTER EN WITH TAILbSMALL LETTER EN WITH TAIL
4CBaCYRILLIC CAPITAL LETTER KHAKASSIAN CHEbSMALL LETTER KHAKASSIAN CHE
4CDaCYRILLIC CAPITAL LETTER EM WITH TAILbSMALL LETTER EM WITH TAILdPALOCHKA
4D0aCYRILLIC CAPITAL LETTER A WITH BREVEbSMALL LETTER A WITH BREVE
4D2aCYRILLIC CAPITAL LETTER A WITH DIAERESISbSMALL LETTER A WITH DIAERESIS
4D4aCYRILLIC CAPITAL LIGATURE A IEbSMALL LIGATURE A IE
4D6aCYRILLIC CAPITAL LETTER IE WITH BREVEbSMALL LETTER IE WITH BREVE
4D8aCYRILLIC CAPITAL LETTER SCHWAbSMALL LETTER SCHWA
4DAaCYRILLIC CAPITAL LETTER SCHWA WITH DIAERESIS
4DBaCYRILLIC SMALL LETTER SCHWA WITH DIAERESIS
4DCaCYRILLIC CAPITAL LETTER ZHE WITH DIAERESISbSMALL LETTER ZHE WITH DIAERESIS
4DEaCYRILLIC CAPITAL LETTER ZE WITH DIAERESISbSMALL LETTER ZE WITH DIAERESIS
4E0aCYRILLIC CAPITAL LETTER ABKHASIAN DZEbSMALL LETTER ABKHASIAN DZE
4E2aCYRILLIC CAPITAL LETTER I WITH MACRONbSMALL LETTER I WITH MACRON
4E4aCYRILLIC CAPITAL LETTER I WITH DIAERESISbSMALL LETTER I WITH DIAERESIS
4E6aCYRILLIC CAPITAL LETTER O WITH DIAERESISbSMALL LETTER O WITH DIAERESIS
4E8aCYRILLIC CAPITAL LETTER BARRED ObSMALL LETTER BARRED O
4EAaCYRILLIC CAPITAL LETTER BARRED O WITH DIAERESIS
4EBaCYRILLIC SMALL LETTER BARRED O WITH DIAERESIS
4ECaCYRILLIC CAPITAL LETTER E WITH DIAERESISbSMALL LETTER E WITH DIAERESIS
4EEaCYRILLIC CAPITAL LETTER U WITH MACRONbSMALL LETTER U WITH MACRON
4F0aCYRILLIC CAPITAL LETTER U WITH DIAERESISbSMALL LETTER U WITH DIAERESIS
4F2aCYRILLIC CAPITAL LETTER U WITH DOUBLE ACUTE
4F3aCYRILLIC SMALL LETTER U WITH DOUBLE ACUTE
4F4aCYRILLIC CAPITAL LETTER CHE WITH DIAERESISbSMALL LETTER CHE WITH DIAERESIS
4F6aCYRILLIC CAPITAL LETTER GHE WITH DESCENDERbSMALL LETTER GHE WITH DESCENDER
4F8aCYRILLIC CAPITAL LETTER YERU WITH DIAERESIS
4F9aCYRILLIC SMALL LETTER YERU WITH DIAERESIS
4FAaCYRILLIC CAPITAL LETTER GHE WITH STROKE AND HOOK
4FBaCYRILLIC SMALL LETTER GHE WITH STROKE AND HOOKbCAPITAL LETTER HA WITH HOOK
4FDaCYRILLIC SMALL LETTER HA WITH HOOKbCAPITAL LETTER HA WITH STROKE
4FFaCYRILLIC SMALL LETTER HA WITH STROKEbCAPITAL LETTER KOMI DE
501aCYRILLIC SMALL LETTER KOMI DEbCAPITAL LETTER KOMI DJE
503aCYRILLIC SMALL LETTER KOMI DJEbCAPITAL LETTER KOMI ZJE
505aCYRILLIC SMALL LETTER KOMI ZJEbCAPITAL LETTER KOMI DZJE
507aCYRILLIC SMALL LETTER KOMI DZJEbCAPITAL LETTER KOMI LJE
509aCYRILLIC SMALL LETTER KOMI LJEbCAPITAL LETTER KOMI NJE
50BaCYRILLIC SMALL LETTER KOMI NJEbCAPITAL LETTER KOMI SJE
50DaCYRILLIC SMALL LETTER KOMI SJEbCAPITAL LETTER KOMI TJE
50FaCYRILLIC SMALL LETTER KOMI TJEbCAPITAL LETTER REVERSED ZE
511aCYRILLIC SMALL LETTER REVERSED ZEbCAPITAL LETTER EL WITH HOOK
513aCYRILLIC SMALL LETTER EL WITH HOOKbCAPITAL LETTER LHAbSMALL LETTER LHA
516aCYRILLIC CAPITAL LETTER RHAbSMALL LETTER RHAbCAPITAL LETTER YAE
519aCYRILLIC SMALL LETTER YAEbCAPITAL LETTER QAbSMALL LETTER QA
51CaCYRILLIC CAPITAL LETTER WEbSMALL LETTER WEbCAPITAL LETTER ALEUT KA
51FaCYRILLIC SMALL LETTER ALEUT KAbCAPITAL LETTER EL WITH MIDDLE HOOK
521aCYRILLIC SMALL LETTER EL WITH MIDDLE HOOK
522aCYRILLIC CAPITAL LETTER EN WITH MIDDLE HOOK
523aCYRILLIC SMALL LETTER EN WITH MIDDLE HOOKbCAPITAL LETTER PE WITH DESCENDER
525aCYRILLIC SMALL LETTER PE WITH DESCENDERbCAPITAL LETTER SHHA WITH DESCENDER
527aCYRILLIC SMALL LETTER SHHA WITH DESCENDERbCAPITAL LETTER EN WITH LEFT HOOK
529aCYRILLIC SMALL LETTER EN WITH LEFT HOOKbCAPITAL LETTER DZZHE
52BaCYRILLIC SMALL LETTER DZZHEbCAPITAL LETTER DCHEbSMALL LETTER DCHE
52EaCYRILLIC CAPITAL LETTER EL WITH DESCENDERbSMALL LETTER EL WITH DESCENDER
531aARMENIAN CAPITAL LETTER AYBdBENdGIMdDAdECHdZAdEHdETdTOdZHEdINIdLIWNdXEHdCA
53FaARMENIAN CAPITAL LETTER KENdHOdJAdGHADdCHEHdMENdYIdNOWdSHAdVOdCHAdPEHdJHEH
54CaARMENIAN CAPITAL LETTER RAdSEHdVEWdTIWNdREHdCOdYIWNdPIWRdKEHdOHdFEH
559aARMENIAN MODIFIER LETTER LEFT HALF RINGbAPOSTROPHEbEMPHASIS MARK
55CaARMENIAN EXCLAMATION MARKbCOMMAbQUESTION MARKbABBREVIATION MARK
560aARMENIAN SMALL LETTER TURNED AYBdAYBdBENdGIMdDAdECHdZAdEHdETdTOdZHEdINI
56CaARMENIAN SMALL LETTER LIWNdXEHdCAdKENdHOdJAdGHADdCHEHdMENdYIdNOWdSHAdVO
579aARMENIAN SMALL LETTER CHAdPEHdJHEHdRAdSEHdVEWdTIWNdREHdCOdYIWNdPIWRdKEHdOH
586aARMENIAN SMALL LETTER FEHcLIGATURE ECH YIWNcLETTER YI WITH STROKE
589aARMENIAN FULL STOPbHYPHEN
58DaRIGHT-FACING ARMENIAN ETERNITY SIGNaLEFT-FACING ARMENIAN ETERNITY SIGN
58FaARMENIAN DRAM SIGN
591aHEBREW ACCENT ETNAHTAcSEGOLcSHALSHELETcZAQEF QATANdGADOLcTIPEHAcREVIA
598aHEBREW ACCENT ZARQAcPASHTAcYETIVcTEVIRcGERESHd MUQDAMcGERSHAYIM
59FaHEBREW ACCENT QARNEY PARAcTELISHA GEDOLAcPAZERcATNAH HAFUKHcMUNAHcMAHAPAKH
5A5aHEBREW ACCENT MERKHAd KEFULAcDARGAcQADMAcTELISHA QETANAcYERAH BEN YOMOcOLE
5ACaHEBREW ACCENT ILUYcDEHIcZINORbMARK MASORA CIRCLEbPOINT SHEVAcHATAF SEGOL
5B2aHEBREW POINT HATAF PATAHdQAMATScHIRIQcTSEREcSEGOLcPATAHcQAMATScHOLAM
5BAaHEBREW POINT HOLAM HASER FOR VAVcQUBUTScDAGESH OR MAPIQcMETEG
5BEaHEBREW PUNCTUATION MAQAFbPOINT RAFEbPUNCTUATION PASEQbPOINT SHIN DOT
5C2aHEBREW POINT SIN DOTbPUNCTUATION SOF PASUQbMARK UPPER DOTcLOWER DOT
5C6aHEBREW PUNCTUATION NUN HAFUKHAbPOINT QAMATS QATAN
5D0aHEBREW LETTER ALEFcBETcGIMELcDALETcHEcVAVcZAYINcHETcTETcYODcFINAL KAFcKAF
5DCaHEBREW LETTER LAMEDcFINAL MEMcMEMcFINAL NUNcNUNcSAMEKHcAYINcFINAL PEcPE
5E5aHEBREW LETTER FINAL TSADIcTSADIcQOFcRESHcSHINcTAV
5EFaHEBREW YOD TRIANGLEbLIGATURE YIDDISH DOUBLE VAVdVAV YODdDOUBLE YOD
5F3aHEBREW PUNCTUATION GERESHcGERSHAYIM
600aARABIC NUMBER SIGNbSIGN SANAHbFOOTNOTE MARKERbSIGN SAFHAcSAMVAT
605aARABIC NUMBER MARK ABOVEaARABIC-INDIC CUBE ROOTcFOURTH ROOTaARABIC RAY
609aARABIC-INDIC PER MILLE SIGNdTEN THOUSAND SIGNaAFGHANI SIGNaARABIC COMMA
60DaARABIC DATE SEPARATORbPOETIC VERSE SIGNbSIGN MISRA
610aARABIC SIGN SALLALLAHOU ALAYHE WASSALLAMcALAYHE ASSALLAM
612aARABIC SIGN RAHMATULLAH ALAYHEcRADI ALLAHOU ANHUcTAKHALLUSbSMALL HIGH TAH
616aARABIC SMALL HIGH LIGATURE ALEF WITH LAM WITH YEHdZAINcFATHAcDAMMAcKASRA
61BaARABIC SEMICOLONbLETTER MARKbEND OF TEXT MARKbTRIPLE DOT PUNCTUATION MARK
61FaARABIC QUESTION MARKbLETTER KASHMIRI YEHcHAMZAcALEF WITH MADDA ABOVE
623aARABIC LETTER ALEF WITH HAMZA ABOVEcWAW WITH HAMZA ABOVE
625aARABIC LETTER ALEF WITH HAMZA BELOWcYEH WITH HAMZA ABOVEcALEFcBEH
629aARABIC LETTER TEH MARBUTAcTEHcTHEHcJEEMcHAHcKHAHcDALcTHALcREHcZAINcSEEN
634aARABIC LETTER SHEENcSADcDADcTAHcZAHcAINcGHAINcKEHEH WITH TWO DOTS ABOVE
63CaARABIC LETTER KEHEH WITH THREE DOTS BELOWcFARSI YEH WITH INVERTED V
63EaARABIC LETTER FARSI YEH WITH TWO DOTS ABOVEfTHREE DOTS ABOVEbTATWEEL
641aARABIC LETTER FEHcQAFcKAFcLAMcMEEMcNOONcHEHcWAWcALEF MAKSURAcYEHbFATHATAN
64CaARABIC DAMMATANbKASRATANbFATHAbDAMMAbKASRAbSHADDAbSUKUNbMADDAH ABOVE
654aARABIC HAMZA ABOVEcBELOWbSUBSCRIPT ALEFbINVERTED DAMMAbMARK NOON GHUNNA
659aARABIC ZWARAKAYbVOWEL SIGN SMALL V ABOVEdINVERTED SMALL V ABOVEdDOT BELOW
65DaARABIC REVERSED DAMMAbFATHA WITH TWO DOTSbWAVY HAMZA BELOW
660aARABIC-INDIC DIGIT ZEROdONEdTWOdTHREEdFOURdFIVEdSIXdSEVENdEIGHTdNINE
66AaARABIC PERCENT SIGNbDECIMAL SEPARATORbTHOUSANDS SEPARATOR
66DaARABIC FIVE POINTED STARbLETTER DOTLESS BEHdQAFcSUPERSCRIPT ALEF
671aARABIC LETTER ALEF WASLAdWITH WAVY HAMZA ABOVEgBELOWcHIGH HAMZAe ALEFeWAW
677aARABIC LETTER U WITH HAMZA ABOVEcHIGH HAMZA YEHcTTEHdEHcBEEHcTEH WITH RING
67DaARABIC LETTER TEH WITH THREE DOTS ABOVE DOWNWARDScPEHcTEHEHcBEHEH
681aARABIC LETTER HAH WITH HAMZA ABOVEeTWO DOTS VERTICAL ABOVEcNYEHcDYEH
685aARABIC LETTER HAH WITH THREE DOTS ABOVEcTCHEHdEHcDDALcDAL WITH RING
68AaARABIC LETTER DAL WITH DOT BELOWg AND SMALL TAHcDAHALcDDAHALcDUL
68FaARABIC LETTER DAL WITH THREE DOTS ABOVE DOWNWARDSeFOUR DOTS ABOVEcRREH
692aARABIC LETTER REH WITH SMALL VeRINGeDOT BELOWeSMALL V BELOW
696aARABIC LETTER REH WITH DOT BELOW AND DOT ABOVEeTWO DOTS ABOVEcJEH
699aARABIC LETTER REH WITH FOUR DOTS ABOVEcSEEN WITH DOT BELOW AND DOT ABOVE
69BaARABIC LETTER SEEN WITH THREE DOTS BELOWh AND THREE DOTS ABOVE
69DaARABIC LETTER SAD WITH TWO DOTS BELOWeTHREE DOTS ABOVE
69FaARABIC LETTER TAH WITH THREE DOTS ABOVEcAIN WITH THREE DOTS ABOVE
6A1aARABIC LETTER DOTLESS FEHcFEH WITH DOT MOVED BELOWfBELOWcVEH
6A5aARABIC LETTER FEH WITH THREE DOTS BELOWcPEHEHcQAF WITH DOT ABOVE
6A8aARABIC LETTER QAF WITH THREE DOTS ABOVEcKEHEHcSWASH KAFcKAF WITH RING
6ACaARABIC LETTER KAF WITH DOT ABOVEcNGcKAF WITH THREE DOTS BELOWcGAF
6B0aARABIC LETTER GAF WITH RINGcNGOEHcGAF WITH TWO DOTS BELOWcGUEH
6B4aARABIC LETTER GAF WITH THREE DOTS ABOVEcLAM WITH SMALL VeDOT ABOVE
6B7aARABIC LETTER LAM WITH THREE DOTS ABOVEgBELOWcNOON WITH DOT BELOWdGHUNNA
6BBaARABIC LETTER RNOONcNOON WITH RINGeTHREE DOTS ABOVEcHEH DOACHASHMEE
6BFaARABIC LETTER TCHEH WITH DOT ABOVEcHEH WITH YEH ABOVEdGOAL
6C2aARABIC LETTER HEH GOAL WITH HAMZA ABOVEcTEH MARBUTA GOALcWAW WITH RING
6C5aARABIC LETTER KIRGHIZ OEcOEcUcYUcKIRGHIZ YUcWAW WITH TWO DOTS ABOVEcVE
6CCaARABIC LETTER FARSI YEHcYEH WITH TAILeSMALL VcWAW WITH DOT ABOVEcE
6D1aARABIC LETTER YEH WITH THREE DOTS BELOWdBARREEe WITH HAMZA ABOVEbFULL STOP
6D5aARABIC LETTER AEbSMALL HIGH LIGATURE SAD WITH LAM WITH ALEF MAKSURA
6D7aARABIC SMALL HIGH LIGATURE QAF WITH LAM WITH ALEF MAKSURA
6D8aARABIC SMALL HIGH MEEM INITIAL FORMdLAM ALEFdJEEMdTHREE DOTSdSEEN
6DDaARABIC END OF AYAHbSTART OF RUB EL HIZBbSMALL HIGH ROUNDED ZERO
6E0aARABIC SMALL HIGH UPRIGHT RECTANGULAR ZEROdDOTLESS HEAD OF KHAH
6E2aARABIC SMALL HIGH MEEM ISOLATED FORMcLOW SEENcHIGH MADDAcWAWcYEHcHIGH YEH
6E8aARABIC SMALL HIGH NOONbPLACE OF SAJDAHbEMPTY CENTRE LOW STOPdHIGH STOP
6ECaARABIC ROUNDED HIGH STOP WITH FILLED CENTREbSMALL LOW MEEM
6EEaARABIC LETTER DAL WITH INVERTED VcREH WITH INVERTED V
6F0aEXTENDED ARABIC-INDIC DIGIT ZEROeONEeTWOeTHREEeFOUReFIVEeSIXeSEVENeEIGHT
6F9aEXTENDED ARABIC-INDIC DIGIT NINEaARABIC LETTER SHEEN WITH DOT BELOW
6FBaARABIC LETTER DAD WITH DOT BELOWcGHAIN WITH DOT BELOW
6FDaARABIC SIGN SINDHI AMPERSANDdPOSTPOSITION MENbLETTER HEH WITH INVERTED V
700aSYRIAC END OF PARAGRAPHbSUPRALINEAR FULL STOPbSUBLINEAR FULL STOP
703aSYRIAC SUPRALINEAR COLONbSUBLINEAR COLONbHORIZONTAL COLON
706aSYRIAC COLON SKEWED LEFTdRIGHTbSUPRALINEAR COLON SKEWED LEFT
709aSYRIAC SUBLINEAR COLON SKEWED RIGHTbCONTRACTIONbHARKLEAN OBELUScMETOBELUS
70DaSYRIAC HARKLEAN ASTERISCUS
70FaSYRIAC ABBREVIATION MARKbLETTER ALAPHcSUPERSCRIPT ALAPHcBETHcGAMAL
714aSYRIAC LETTER GAMAL GARSHUNIcDALATHcDOTLESS DALATH RISHcHEcWAWcZAINcHETH
71BaSYRIAC LETTER TETHd GARSHUNIcYUDHd HEcKAPHcLAMADHcMIMcNUNcSEMKATH
724aSYRIAC LETTER FINAL SEMKATHcEcPEcREVERSED PEcSADHEcQAPHcRISHcSHINcTAW
72DaSYRIAC LETTER PERSIAN BHETHdGHAMALdDHALATHbPTHAHA ABOVEcBELOWcDOTTED
733aSYRIAC ZQAPHA ABOVEcBELOWcDOTTEDbRBASA ABOVEcBELOWbDOTTED ZLAMA HORIZONTAL
739aSYRIAC DOTTED ZLAMA ANGULARbHBASA ABOVEcBELOWbHBASA-ESASA DOTTED
73DaSYRIAC ESASA ABOVEcBELOWbRWAHAbFEMININE DOTbQUSHSHAYAbRUKKAKHA
743aSYRIAC TWO VERTICAL DOTS ABOVEeBELOWbTHREE DOTS ABOVEdBELOW
747aSYRIAC OBLIQUE LINE ABOVEdBELOWbMUSICbBARREKH
74DaSYRIAC LETTER SOGDIAN ZHAINdKHAPHdFE
750aARABIC LETTER BEH WITH THREE DOTS HORIZONTALLY BELOW
751aARABIC LETTER BEH WITH DOT BELOW AND THREE DOTS ABOVE
752aARABIC LETTER BEH WITH THREE DOTS POINTING UPWARDS BELOW
753aARABIC LETTER BEH WITH THREE DOTS POINTING UPWARDS BELOW AND TWO DOTS ABOVE
754aARABIC LETTER BEH WITH TWO DOTS BELOW AND DOT ABOVEeINVERTED SMALL V BELOW
756aARABIC LETTER BEH WITH SMALL VcHAH WITH TWO DOTS ABOVE
758aARABIC LETTER HAH WITH THREE DOTS POINTING UPWARDS BELOW
759aARABIC LETTER DAL WITH TWO DOTS VERTICALLY BELOW AND SMALL TAH
75AaARABIC LETTER DAL WITH INVERTED SMALL V BELOWcREH WITH STROKE
75CaARABIC LETTER SEEN WITH FOUR DOTS ABOVEcAIN WITH TWO DOTS ABOVE
75EaARABIC LETTER AIN WITH THREE DOTS POINTING DOWNWARDS ABOVE
75FaARABIC LETTER AIN WITH TWO DOTS VERTICALLY ABOVEcFEH WITH TWO DOTS BELOW
761aARABIC LETTER FEH WITH THREE DOTS POINTING UPWARDS BELOW
762aARABIC LETTER KEHEH WITH DOT ABOVEeTHREE DOTS ABOVEgPOINTING UPWARDS BELOW
765aARABIC LETTER MEEM WITH DOT ABOVEfBELOWcNOON WITH TWO DOTS BELOWeSMALL TAH
769aARABIC LETTER NOON WITH SMALL VcLAM WITH BAR
76BaARABIC LETTER REH WITH TWO DOTS VERTICALLY ABOVEeHAMZA ABOVE
76DaARABIC LETTER SEEN WITH TWO DOTS VERTICALLY ABOVE
76EaARABIC LETTER HAH WITH SMALL ARABIC LETTER TAH BELOWiAND TWO DOTS
770aARABIC LETTER SEEN WITH SMALL ARABIC LETTER TAH AND TWO DOTS
771aARABIC LETTER REH WITH SMALL ARABIC LETTER TAH AND TWO DOTS
772aARABIC LETTER HAH WITH SMALL ARABIC LETTER TAH ABOVE
773aARABIC LETTER ALEF WITH EXTENDED ARABIC-INDIC DIGIT TWO ABOVEiTHREE ABOVE
775aARABIC LETTER FARSI YEH WITH EXTENDED ARABIC-INDIC DIGIT TWO ABOVE
776aARABIC LETTER FARSI YEH WITH EXTENDED ARABIC-INDIC DIGIT THREE ABOVE
777aARABIC LETTER FARSI YEH WITH EXTENDED ARABIC-INDIC DIGIT FOUR BELOW
778aARABIC LETTER WAW WITH EXTENDED ARABIC-INDIC DIGIT TWO ABOVEiTHREE ABOVE
77AaARABIC LETTER YEH BARREE WITH EXTENDED ARABIC-INDIC DIGIT TWO ABOVE
77BaARABIC LETTER YEH BARREE WITH EXTENDED ARABIC-INDIC DIGIT THREE ABOVE
77CaARABIC LETTER HAH WITH EXTENDED ARABIC-INDIC DIGIT FOUR BELOW
77DaARABIC LETTER SEEN WITH EXTENDED ARABIC-INDIC DIGIT FOUR ABOVEeINVERTED V
77FaARABIC LETTER KAF WITH TWO DOTS ABOVEaTHAANA LETTER HAAcSHAVIYANIcNOONU
783aTHAANA LETTER RAAcBAAcLHAVIYANIcKAAFUcALIFUcVAAVUcMEEMUcFAAFUcDHAALUcTHAA
78DaTHAANA LETTER LAAMUcGAAFUcGNAVIYANIcSEENUcDAVIYANIcZAVIYANIcTAVIYANIcYAA
795aTHAANA LETTER PAVIYANIcJAVIYANIcCHAVIYANIcTTAAcHHAAcKHAAcTHAALUcZAAcSHEENU
79EaTHAANA LETTER SAADHUcDAADHUcTOcZOcAINUcGHAINUcQAAFUcWAAVUbABAFILI
7A7aTHAANA AABAAFILIbIBIFILIbEEBEEFILIbUBUFILIbOOBOOFILIbEBEFILIbEYBEYFILI
7AEaTHAANA OBOFILIbOABOAFILIbSUKUNbLETTER NAA
7C0aNKO DIGIT ZEROcONEcTWOcTHREEcFOURcFIVEcSIXcSEVENcEIGHTcNINEbLETTER AcEEcI
7CDaNKO LETTER EcUcOOcOcDAGBASINNAcNcBAcPAcTAcJAcCHAcDAcRAcRRAcSAcGBAcFAcKAcLA
7E0aNKO LETTER NA WOLOSOcMAcNYAcNAcHAcWAcYAcNYA WOLOSOcJONA JAdCHAdRA
7EBaNKO COMBINING SHORT HIGH TONEdLOW TONEdRISING TONEcLONG DESCENDING TONE
7EFaNKO COMBINING LONG HIGH TONEdLOW TONEdRISING TONEcNASALIZATION MARK
7F3aNKO COMBINING DOUBLE DOT ABOVEbHIGH TONE APOSTROPHEbLOW TONE APOSTROPHE
7F6aNKO SYMBOL OO DENNENcGBAKURUNENbCOMMAbEXCLAMATION MARKbLAJANYALAN
7FDaNKO DANTAYALANbDOROME SIGNbTAMAN SIGNaSAMARITAN LETTER ALAFcBITcGAMAN
803aSAMARITAN LETTER DALATcIYcBAAcZENcITcTITcYUTcKAAFcLABATcMIMcNUNcSINGAATcIN
810aSAMARITAN LETTER FIcTSAADIYcQUFcRISHcSHANcTAAFbMARK INd-ALAFcOCCLUSION
819aSAMARITAN MARK DAGESHbMODIFIER LETTER EPENTHETIC YUTbMARK EPENTHETIC YUT
81CaSAMARITAN VOWEL SIGN LONG EdEdOVERLONG AAdLONG AAdAAdOVERLONG AdLONG AdA
824aSAMARITAN MODIFIER LETTER SHORT AbVOWEL SIGN SHORT AdLONG UdU
828aSAMARITAN MODIFIER LETTER IbVOWEL SIGN LONG IdIdOdSUKUNbMARK NEQUDAA
830aSAMARITAN PUNCTUATION NEQUDAAcAFSAAQcANGEDcBAUcATMAAUcSHIYYAALAA
836aSAMARITAN ABBREVIATION MARKbPUNCTUATION MELODIC QITSAcZIQAAcQITSAcZAEF
83BaSAMARITAN PUNCTUATION TURUcARKAANUcSOF MASHFAATcANNAAU
840aMANDAIC LETTER HALQAcABcAGcADcAHcUSHENNAcAZcITcATTcAKSAcAKcALcAMcANcAScIN
850aMANDAIC LETTER APcASZcAQcARcASHcATcDUSHENNAcKADcAINbAFFRICATION MARK
85AaMANDAIC VOCALIZATION MARKbGEMINATION MARK
85EaMANDAIC PUNCTUATION
860aSYRIAC LETTER MALAYALAM NGAdJAdNYAdTTAdNNAdNNNAdBHAdRAdLLAdLLLAdSSA
870aARABIC LETTER ALEF WITH ATTACHED FATHAfTOP RIGHT FATHAeRIGHT MIDDLE STROKE
873aARABIC LETTER ALEF WITH LEFT MIDDLE STROKEeATTACHED KASRA
875aARABIC LETTER ALEF WITH ATTACHED BOTTOM RIGHT KASRAfROUND DOT ABOVE
877aARABIC LETTER ALEF WITH ATTACHED RIGHT ROUND DOTfLEFT ROUND DOT
879aARABIC LETTER ALEF WITH ATTACHED ROUND DOT BELOWeDOT ABOVE
87BaARABIC LETTER ALEF WITH ATTACHED TOP RIGHT FATHA AND DOT ABOVE
87CaARABIC LETTER ALEF WITH RIGHT MIDDLE STROKE AND DOT ABOVE
87DaARABIC LETTER ALEF WITH ATTACHED BOTTOM RIGHT KASRA AND DOT ABOVE
87EaARABIC LETTER ALEF WITH ATTACHED TOP RIGHT FATHA AND LEFT RING
87FaARABIC LETTER ALEF WITH RIGHT MIDDLE STROKE AND LEFT RING
880aARABIC LETTER ALEF WITH ATTACHED BOTTOM RIGHT KASRA AND LEFT RING
881aARABIC LETTER ALEF WITH ATTACHED RIGHT HAMZAfLEFT HAMZA
883aARABIC TATWEEL WITH OVERSTRUCK HAMZAeWAWdTWO DOTS BELOWbLETTER THIN YEH
887aARABIC BASELINE ROUND DOTbRAISED ROUND DOT
889aARABIC LETTER NOON WITH INVERTED SMALL VcHAH WITH INVERTED SMALL V BELOW
88BaARABIC LETTER TAH WITH DOT BELOWeTHREE DOTS BELOW
88DaARABIC LETTER KEHEH WITH TWO DOTS VERTICALLY BELOWbVERTICAL TAIL
890aARABIC POUND MARK ABOVEbPIASTRE MARK ABOVE
898aARABIC SMALL HIGH WORD AL-JUZcLOW WORD ISHMAAMeIMAALAeTASHEELbMADDA WAAJIB
89DaARABIC SUPERSCRIPT ALEF MOKHASSASbDOUBLED MADDAbHALF MADDA OVER MADDA
8A0aARABIC LETTER BEH WITH SMALL V BELOWeHAMZA ABOVEcJEEM WITH TWO DOTS ABOVE
8A3aARABIC LETTER TAH WITH TWO DOTS ABOVE
8A4aARABIC LETTER FEH WITH DOT BELOW AND THREE DOTS ABOVEcQAF WITH DOT BELOW
8A6aARABIC LETTER LAM WITH DOUBLE BARcMEEM WITH THREE DOTS ABOVE
8A8aARABIC LETTER YEH WITH TWO DOTS BELOW AND HAMZA ABOVEiDOT ABOVE
8AAaARABIC LETTER REH WITH LOOPcWAW WITH DOT WITHINcROHINGYA YEHcLOW ALEF
8AEaARABIC LETTER DAL WITH THREE DOTS BELOWcSAD WITH THREE DOTS BELOW
8B0aARABIC LETTER GAF WITH INVERTED STROKEcSTRAIGHT WAW
8B2aARABIC LETTER ZAIN WITH INVERTED V ABOVEcAIN WITH THREE DOTS BELOW
8B4aARABIC LETTER KAF WITH DOT BELOWcQAF WITH DOT BELOW AND NO DOTS ABOVE
8B6aARABIC LETTER BEH WITH SMALL MEEM ABOVEcPEH WITH SMALL MEEM ABOVE
8B8aARABIC LETTER TEH WITH SMALL TEH ABOVEcREH WITH SMALL NOON ABOVE
8BAaARABIC LETTER YEH WITH TWO DOTS BELOW AND SMALL NOON ABOVEcAFRICAN FEHdQAF
8BDaARABIC LETTER AFRICAN NOONcPEH WITH SMALL VcTEH WITH SMALL V
8C0aARABIC LETTER TTEH WITH SMALL VcTCHEH WITH SMALL VcKEHEH WITH SMALL V
8C3aARABIC LETTER GHAIN WITH THREE DOTS ABOVE
8C4aARABIC LETTER AFRICAN QAF WITH THREE DOTS ABOVEcJEEM WITH THREE DOTS ABOVE
8C6aARABIC LETTER JEEM WITH THREE DOTS BELOW
8C7aARABIC LETTER LAM WITH SMALL ARABIC LETTER TAH ABOVEcGRAFbSMALL FARSI YEH
8CAaARABIC SMALL HIGH FARSI YEHdYEH BARREE WITH TWO DOTS BELOWdWORD SAHdZAH
8CEaARABIC LARGE ROUND DOT ABOVEeBELOWbSUKUN BELOWbLARGE CIRCLE BELOW
8D2aARABIC LARGE ROUND DOT INSIDE CIRCLE BELOWbSMALL LOW WAWcHIGH WORD AR-RUB
8D5aARABIC SMALL HIGH SADdAINdQAFdNOON WITH KASRAcLOW NOON WITH KASRA
8DAaARABIC SMALL HIGH WORD ATH-THALATHAeAS-SAJDAeAN-NISFeSAKTAeQIFeWAQFA
8E0aARABIC SMALL HIGH FOOTNOTE MARKERdSIGN SAFHAbDISPUTED END OF AYAH
8E3aARABIC TURNED DAMMA BELOWbCURLY FATHAcDAMMAcKASRAcFATHATANcDAMMATAN
8E9aARABIC CURLY KASRATANbTONE ONE DOT ABOVEcTWO DOTS ABOVEcLOOP ABOVE
8EDaARABIC TONE ONE DOT BELOWcTWO DOTS BELOWcLOOP BELOWbOPEN FATHATANcDAMMATAN
8F2aARABIC OPEN KASRATANbSMALL HIGH WAWbFATHA WITH RINGdDOT ABOVE
8F6aARABIC KASRA WITH DOT BELOWbLEFT ARROWHEAD ABOVEbRIGHT ARROWHEAD ABOVE
8F9aARABIC LEFT ARROWHEAD BELOWbRIGHT ARROWHEAD BELOW
8FBaARABIC DOUBLE RIGHT ARROWHEAD ABOVEf WITH DOT
8FDaARABIC RIGHT ARROWHEAD ABOVE WITH DOTbDAMMA WITH DOT
8FFaARABIC MARK SIDEWAYS NOON GHUNNAaDEVANAGARI SIGN INVERTED CANDRABINDU
901aDEVANAGARI SIGN CANDRABINDUcANUSVARAcVISARGAbLETTER SHORT AcAdAcIdIcUdU
90BaDEVANAGARI LETTER VOCALIC RdLcCANDRA EcSHORT EcEcAIcCANDRA OcSHORT OcOcAU
915aDEVANAGARI LETTER KAcKHAcGAcGHAcNGAcCAcCHAcJAcJHAcNYAcTTAcTTHAcDDAcDDHA
923aDEVANAGARI LETTER NNAcTAcTHAcDAcDHAcNAcNNNAcPAcPHAcBAcBHAcMAcYAcRAcRRAcLA
933aDEVANAGARI LETTER LLAcLLLAcVAcSHAcSSAcSAcHAbVOWEL SIGN OEdOOEbSIGN NUKTA
93DaDEVANAGARI SIGN AVAGRAHAbVOWEL SIGN AAdIeIdUeUdVOCALIC RfRdCANDRA E
946aDEVANAGARI VOWEL SIGN SHORT EdEdAIdCANDRA OdSHORT OdOdAUbSIGN VIRAMA
94EaDEVANAGARI VOWEL SIGN PRISHTHAMATRA EdAWbOMbSTRESS SIGN UDATTAdANUDATTA
953aDEVANAGARI GRAVE ACCENTbACUTE ACCENTbVOWEL SIGN CANDRA LONG EdUEdUUE
958aDEVANAGARI LETTER QAcKHHAcGHHAcZAcDDDHAcRHAcFAcYYAcVOCALIC RRdLL
962aDEVANAGARI VOWEL SIGN VOCALIC LfLbDANDAbDOUBLE DANDAbDIGIT ZEROcONEcTWO
969aDEVANAGARI DIGIT THREEcFOURcFIVEcSIXcSEVENcEIGHTcNINEbABBREVIATION SIGN
971aDEVANAGARI SIGN HIGH SPACING DOTbLETTER CANDRA AcOEcOOEcAWcUEcUUE
978aDEVANAGARI LETTER MARWARI DDAcZHAcHEAVY YAcGGAcJJAcGLOTTAL STOPcDDDAcBBA
980aBENGALI ANJIbSIGN CANDRABINDUcANUSVARAcVISARGA
985aBENGALI LETTER AdAcIdIcUdUcVOCALIC RdL
98FaBENGALI LETTER EcAI
993aBENGALI LETTER OcAUcKAcKHAcGAcGHAcNGAcCAcCHAcJAcJHAcNYAcTTAcTTHAcDDAcDDHA
9A3aBENGALI LETTER NNAcTAcTHAcDAcDHAcNA
9AAaBENGALI LETTER PAcPHAcBAcBHAcMAcYAcRA
9B2aBENGALI LETTER LA
9B6aBENGALI LETTER SHAcSSAcSAcHA
9BCaBENGALI SIGN NUKTAcAVAGRAHAbVOWEL SIGN AAdIeIdUeUdVOCALIC RfR
9C7aBENGALI VOWEL SIGN EdAI
9CBaBENGALI VOWEL SIGN OdAUbSIGN VIRAMAbLETTER KHANDA TA
9D7aBENGALI AU LENGTH MARK
9DCaBENGALI LETTER RRAcRHA
9DFaBENGALI LETTER YYAcVOCALIC RRdLLbVOWEL SIGN VOCALIC LfL
9E6aBENGALI DIGIT ZEROcONEcTWOcTHREEcFOURcFIVEcSIXcSEVENcEIGHTcNINE
9F0aBENGALI LETTER RA WITH MIDDLE DIAGONALeLOWER DIAGONALbRUPEE MARKcSIGN
9F4aBENGALI CURRENCY NUMERATOR ONEdTWOdTHREEdFOUR
9F8aBENGALI CURRENCY NUMERATOR ONE LESS THAN THE DENOMINATOR
9F9aBENGALI CURRENCY DENOMINATOR SIXTEENbISSHARbGANDA MARK
9FCaBENGALI LETTER VEDIC ANUSVARAbABBREVIATION SIGNbSANDHI MARK
A01aGURMUKHI SIGN ADAK BINDIcBINDIcVISARGA
A05aGURMUKHI LETTER AdAcIdIcUdU
A0FaGURMUKHI LETTER EEcAI
A13aGURMUKHI LETTER OOcAUcKAcKHAcGAcGHAcNGAcCAcCHAcJAcJHAcNYAcTTAcTTHAcDDA
A22aGURMUKHI LETTER DDHAcNNAcTAcTHAcDAcDHAcNA
A2AaGURMUKHI LETTER PAcPHAcBAcBHAcMAcYAcRA
A32aGURMUKHI LETTER LAcLLA
A35aGURMUKHI LETTER VAcSHA
A38aGURMUKHI LETTER SAcHA
A3CaGURMUKHI SIGN NUKTA
A3EaGURMUKHI VOWEL SIGN AAdIeIdUeU
A47aGURMUKHI VOWEL SIGN EEdAI
A4BaGURMUKHI VOWEL SIGN OOdAUbSIGN VIRAMA
A51aGURMUKHI SIGN UDAAT
A59aGURMUKHI LETTER KHHAcGHHAcZAcRRA
A5EaGURMUKHI LETTER FA
A66aGURMUKHI DIGIT ZEROcONEcTWOcTHREEcFOURcFIVEcSIXcSEVENcEIGHTcNINEbTIPPI
A71aGURMUKHI ADDAKbIRIbURAbEK ONKARbSIGN YAKASHbABBREVIATION SIGN
A81aGUJARATI SIGN CANDRABINDUcANUSVARAcVISARGA
A85aGUJARATI LETTER AdAcIdIcUdUcVOCALIC RdLbVOWEL CANDRA E
A8FaGUJARATI LETTER EcAIbVOWEL CANDRA O
A93aGUJARATI LETTER OcAUcKAcKHAcGAcGHAcNGAcCAcCHAcJAcJHAcNYAcTTAcTTHAcDDAcDDHA
AA3aGUJARATI LETTER NNAcTAcTHAcDAcDHAcNA
AAAaGUJARATI LETTER PAcPHAcBAcBHAcMAcYAcRA
AB2aGUJARATI LETTER LAcLLA
AB5aGUJARATI LETTER VAcSHAcSSAcSAcHA
ABCaGUJARATI SIGN NUKTAcAVAGRAHAbVOWEL SIGN AAdIeIdUeUdVOCALIC RfRdCANDRA E
AC7aGUJARATI VOWEL SIGN EdAIdCANDRA O
ACBaGUJARATI VOWEL SIGN OdAUbSIGN VIRAMA
AD0aGUJARATI OM
AE0aGUJARATI LETTER VOCALIC RRdLLbVOWEL SIGN VOCALIC LfL
AE6aGUJARATI DIGIT ZEROcONEcTWOcTHREEcFOURcFIVEcSIXcSEVENcEIGHTcNINE
AF0aGUJARATI ABBREVIATION SIGNbRUPEE SIGN
AF9aGUJARATI LETTER ZHAbSIGN SUKUNcSHADDAcMADDAHcTHREE-DOT NUKTA ABOVE
AFEaGUJARATI SIGN CIRCLE NUKTA ABOVEcTWO-CIRCLE NUKTA ABOVE
B01aORIYA SIGN CANDRABINDUcANUSVARAcVISARGA
B05aORIYA LETTER AdAcIdIcUdUcVOCALIC RdL
B0FaORIYA LETTER EcAI
B13aORIYA LETTER OcAUcKAcKHAcGAcGHAcNGAcCAcCHAcJAcJHAcNYAcTTAcTTHAcDDAcDDHA
B23aORIYA LETTER NNAcTAcTHAcDAcDHAcNA
B2AaORIYA LETTER PAcPHAcBAcBHAcMAcYAcRA
B32aORIYA LETTER LAcLLA
B35aORIYA LETTER VAcSHAcSSAcSAcHA
B3CaORIYA SIGN NUKTAcAVAGRAHAbVOWEL SIGN AAdIeIdUeUdVOCALIC RfR
B47aORIYA VOWEL SIGN EdAI
B4BaORIYA VOWEL SIGN OdAUbSIGN VIRAMA
B55aORIYA SIGN OVERLINEbAI LENGTH MARKbAU LENGTH MARK
B5CaORIYA LETTER RRAcRHA
B5FaORIYA LETTER YYAcVOCALIC RRdLLbVOWEL SIGN VOCALIC LfL
B66aORIYA DIGIT ZEROcONEcTWOcTHREEcFOURcFIVEcSIXcSEVENcEIGHTcNINEbISSHAR
B71aORIYA LETTER WAbFRACTION ONE QUARTERdHALFcTHREE QUARTERScONE SIXTEENTH
B76aORIYA FRACTION ONE EIGHTHcTHREE SIXTEENTHS
B82aTAMIL SIGN ANUSVARAcVISARGA
B85aTAMIL LETTER AdAcIdIcUdU
B8EaTAMIL LETTER EdEcAI
B92aTAMIL LETTER OdOcAUcKA
B99aTAMIL LETTER NGAcCA
B9CaTAMIL LETTER JA
B9EaTAMIL LETTER NYAcTTA
BA3aTAMIL LETTER NNAcTA
BA8aTAMIL LETTER NAcNNNAcPA
BAEaTAMIL LETTER MAcYAcRAcRRAcLAcLLAcLLLAcVAcSHAcSSAcSAcHA
BBEaTAMIL VOWEL SIGN AAdIeIdUeU
BC6aTAMIL VOWEL SIGN EeEdAI
BCAaTAMIL VOWEL SIGN OeOdAUbSIGN VIRAMA
BD0aTAMIL OM
BD7aTAMIL AU LENGTH MARK
BE6aTAMIL DIGIT ZEROcONEcTWOcTHREEcFOURcFIVEcSIXcSEVENcEIGHTcNINEbNUMBER TEN
BF1aTAMIL NUMBER ONE HUNDREDdTHOUSANDbDAY SIGNbMONTH SIGNbYEAR SIGNbDEBIT SIGN
BF7aTAMIL CREDIT SIGNbAS ABOVE SIGNbRUPEE SIGNbNUMBER SIGN
C00aTELUGU SIGN COMBINING CANDRABINDU ABOVEcCANDRABINDUcANUSVARAcVISARGA
C04aTELUGU SIGN COMBINING ANUSVARA ABOVEbLETTER AdAcIdIcUdUcVOCALIC RdL
C0EaTELUGU LETTER EdEcAI
C12aTELUGU LETTER OdOcAUcKAcKHAcGAcGHAcNGAcCAcCHAcJAcJHAcNYAcTTAcTTHAcDDAcDDHA
C23aTELUGU LETTER NNAcTAcTHAcDAcDHAcNA
C2AaTELUGU LETTER PAcPHAcBAcBHAcMAcYAcRAcRRAcLAcLLAcLLLAcVAcSHAcSSAcSAcHA
C3CaTELUGU SIGN NUKTAcAVAGRAHAbVOWEL SIGN AAdIeIdUeUdVOCALIC RfR
C46aTELUGU VOWEL SIGN EeEdAI
C4AaTELUGU VOWEL SIGN OeOdAUbSIGN VIRAMA
C55aTELUGU LENGTH MARKbAI LENGTH MARK
C58aTELUGU LETTER TSAcDZAcRRRA
C5DaTELUGU LETTER NAKAARA POLLU
C60aTELUGU LETTER VOCALIC RRdLLbVOWEL SIGN VOCALIC LfL
C66aTELUGU DIGIT ZEROcONEcTWOcTHREEcFOURcFIVEcSIXcSEVENcEIGHTcNINE
C77aTELUGU SIGN SIDDHAMbFRACTION DIGIT ZERO FOR ODD POWERS OF FOUR
C79aTELUGU FRACTION DIGIT ONE FOR ODD POWERS OF FOUR
C7AaTELUGU FRACTION DIGIT TWO FOR ODD POWERS OF FOUR
C7BaTELUGU FRACTION DIGIT THREE FOR ODD POWERS OF FOUR
C7CaTELUGU FRACTION DIGIT ONE FOR EVEN POWERS OF FOUR
C7DaTELUGU FRACTION DIGIT TWO FOR EVEN POWERS OF FOUR
C7EaTELUGU FRACTION DIGIT THREE FOR EVEN POWERS OF FOURbSIGN TUUMU
C80aKANNADA SIGN SPACING CANDRABINDUcCANDRABINDUcANUSVARAcVISARGAcSIDDHAM
C85aKANNADA LETTER AdAcIdIcUdUcVOCALIC RdL
C8EaKANNADA LETTER EdEcAI
C92aKANNADA LETTER OdOcAUcKAcKHAcGAcGHAcNGAcCAcCHAcJAcJHAcNYAcTTAcTTHAcDDA
CA2aKANNADA LETTER DDHAcNNAcTAcTHAcDAcDHAcNA
CAAaKANNADA LETTER PAcPHAcBAcBHAcMAcYAcRAcRRAcLAcLLA
CB5aKANNADA LETTER VAcSHAcSSAcSAcHA
CBCaKANNADA SIGN NUKTAcAVAGRAHAbVOWEL SIGN AAdIeIdUeUdVOCALIC RfR
CC6aKANNADA VOWEL SIGN EeEdAI
CCAaKANNADA VOWEL SIGN OeOdAUbSIGN VIRAMA
CD5aKANNADA LENGTH MARKbAI LENGTH MARK
CDDaKANNADA LETTER NAKAARA POLLUcFA
CE0aKANNADA LETTER VOCALIC RRdLLbVOWEL SIGN VOCALIC LfL
CE6aKANNADA DIGIT ZEROcONEcTWOcTHREEcFOURcFIVEcSIXcSEVENcEIGHTcNINE
CF1aKANNADA SIGN JIHVAMULIYAcUPADHMANIYA
D00aMALAYALAM SIGN COMBINING ANUSVARA ABOVEcCANDRABINDUcANUSVARAcVISARGA
D04aMALAYALAM LETTER VEDIC ANUSVARAcAdAcIdIcUdUcVOCALIC RdL
D0EaMALAYALAM LETTER EdEcAI
D12aMALAYALAM LETTER OdOcAUcKAcKHAcGAcGHAcNGAcCAcCHAcJAcJHAcNYAcTTAcTTHAcDDA
D22aMALAYALAM LETTER DDHAcNNAcTAcTHAcDAcDHAcNAcNNNAcPAcPHAcBAcBHAcMAcYAcRAcRRA
D32aMALAYALAM LETTER LAcLLAcLLLAcVAcSHAcSSAcSAcHAcTTTA
D3BaMALAYALAM SIGN VERTICAL BAR VIRAMAcCIRCULAR VIRAMAcAVAGRAHAbVOWEL SIGN AA
D3FaMALAYALAM VOWEL SIGN IeIdUeUdVOCALIC RfR
D46aMALAYALAM VOWEL SIGN EeEdAI
D4AaMALAYALAM VOWEL SIGN OeOdAUbSIGN VIRAMAbLETTER DOT REPHbSIGN PARA
D54aMALAYALAM LETTER CHILLU MdYdLLLbAU LENGTH MARK
D58aMALAYALAM FRACTION ONE ONE-HUNDRED-AND-SIXTIETHdFORTIETHcTHREE EIGHTIETHS
D5BaMALAYALAM FRACTION ONE TWENTIETHdTENTHcTHREE TWENTIETHScONE FIFTH
D5FaMALAYALAM LETTER ARCHAIC IIcVOCALIC RRdLLbVOWEL SIGN VOCALIC LfL
D66aMALAYALAM DIGIT ZEROcONEcTWOcTHREEcFOURcFIVEcSIXcSEVENcEIGHTcNINE
D70aMALAYALAM NUMBER TENcONE HUNDREDdTHOUSANDbFRACTION ONE QUARTERdHALF
D75aMALAYALAM FRACTION THREE QUARTERScONE SIXTEENTHdEIGHTHcTHREE SIXTEENTHS
D79aMALAYALAM DATE MARKbLETTER CHILLU NNdNdRRdLeLdK
D81aSINHALA SIGN CANDRABINDUcANUSVARAYAcVISARGAYA
D85aSINHALA LETTER AYANNAcAAYANNAcAEYANNAcAEEYANNAcIYANNAcIIYANNAcUYANNA
D8CaSINHALA LETTER UUYANNAcIRUYANNAcIRUUYANNAcILUYANNAcILUUYANNAcEYANNA
D92aSINHALA LETTER EEYANNAcAIYANNAcOYANNAcOOYANNAcAUYANNA
D9AaSINHALA LETTER ALPAPRAANA KAYANNAcMAHAAPRAANA KAYANNAcALPAPRAANA GAYANNA
D9DaSINHALA LETTER MAHAAPRAANA GAYANNAcKANTAJA NAASIKYAYAcSANYAKA GAYANNA
DA0aSINHALA LETTER ALPAPRAANA CAYANNAcMAHAAPRAANA CAYANNAcALPAPRAANA JAYANNA
DA3aSINHALA LETTER MAHAAPRAANA JAYANNAcTAALUJA NAASIKYAYAdSANYOOGA NAAKSIKYAYA
DA6aSINHALA LETTER SANYAKA JAYANNAcALPAPRAANA TTAYANNAcMAHAAPRAANA TTAYANNA
DA9aSINHALA LETTER ALPAPRAANA DDAYANNAcMAHAAPRAANA DDAYANNAcMUURDHAJA NAYANNA
DACaSINHALA LETTER SANYAKA DDAYANNAcALPAPRAANA TAYANNAcMAHAAPRAANA TAYANNA
DAFaSINHALA LETTER ALPAPRAANA DAYANNAcMAHAAPRAANA DAYANNAcDANTAJA NAYANNA
DB3aSINHALA LETTER SANYAKA DAYANNAcALPAPRAANA PAYANNAcMAHAAPRAANA PAYANNA
DB6aSINHALA LETTER ALPAPRAANA BAYANNAcMAHAAPRAANA BAYANNAcMAYANNAcAMBA BAYANNA
DBAaSINHALA LETTER YAYANNAcRAYANNA
DBDaSINHALA LETTER DANTAJA LAYANNA
DC0aSINHALA LETTER VAYANNAcTAALUJA SAYANNAcMUURDHAJA SAYANNAcDANTAJA SAYANNA
DC4aSINHALA LETTER HAYANNAcMUURDHAJA LAYANNAcFAYANNA
DCAaSINHALA SIGN AL-LAKUNA
DCFaSINHALA VOWEL SIGN AELA-PILLAdKETTI AEDA-PILLAdDIGA AEDA-PILLA
DD2aSINHALA VOWEL SIGN KETTI IS-PILLAdDIGA IS-PILLAdKETTI PAA-PILLA
DD6aSINHALA VOWEL SIGN DIGA PAA-PILLA
DD8aSINHALA VOWEL SIGN GAETTA-PILLAdKOMBUVAdDIGA KOMBUVAdKOMBU DEKA
DDCaSINHALA VOWEL SIGN KOMBUVA HAA AELA-PILLAfDIGA AELA-PILLAfGAYANUKITTA
DDFaSINHALA VOWEL SIGN GAYANUKITTA
DE6aSINHALA LITH DIGIT ZEROdONEdTWOdTHREEdFOURdFIVEdSIXdSEVENdEIGHTdNINE
DF2aSINHALA VOWEL SIGN DIGA GAETTA-PILLAeGAYANUKITTAbPUNCTUATION KUNDDALIYA
E01aTHAI CHARACTER KO KAIcKHO KHAIdKHUATdKHWAIdKHONdRAKHANGcNGO NGUcCHO CHAN
E09aTHAI CHARACTER CHO CHINGdCHANGcSO SOcCHO CHOEcYO YINGcDO CHADAcTO PATAK
E10aTHAI CHARACTER THO THANdNANGMONTHOdPHUTHAOcNO NENcDO DEKcTO TAOcTHO THUNG
E17aTHAI CHARACTER THO THAHANdTHONGcNO NUcBO BAIMAIcPO PLAcPHO PHUNGcFO FA
E1EaTHAI CHARACTER PHO PHANcFO FANcPHO SAMPHAOcMO MAcYO YAKcRO RUAcRUcLO LING
E26aTHAI CHARACTER LUcWO WAENcSO SALAdRUSIdSUAcHO HIPcLO CHULAcO ANGcHO NOKHUK
E2FaTHAI CHARACTER PAIYANNOIcSARA AcMAI HAN-AKATcSARA AAdAMdIeIdUEeEdUeU
E3AaTHAI CHARACTER PHINTHU
E3FaTHAI CURRENCY SYMBOL BAHTbCHARACTER SARA EdAEdOdAI MAIMUANeMAIMALAI
E45aTHAI CHARACTER LAKKHANGYAOcMAIYAMOKcMAITAIKHUcMAI EKdTHOdTRIdCHATTAWA
E4CaTHAI CHARACTER THANTHAKHATcNIKHAHITcYAMAKKANcFONGMANbDIGIT ZEROcONEcTWO
E53aTHAI DIGIT THREEcFOURcFIVEcSIXcSEVENcEIGHTcNINEbCHARACTER ANGKHANKHU
E5BaTHAI CHARACTER KHOMUT
E81aLAO LETTER KOcKHO SUNG
E84aLAO LETTER KHO TAM
E86aLAO LETTER PALI GHAcNGOcCOcPALI CHAcSO TAM
E8CaLAO LETTER PALI JHAcNYOcPALI NYAdTTAdTTHAdDDAdDDHAdNNAcDOcTOcTHO SUNGdTAM
E98aLAO LETTER PALI DHAcNOcBOcPOcPHO SUNGcFO TAMcPHO TAMcFO SUNGcPALI BHAcMO
EA2aLAO LETTER YOcLO LING
EA5aLAO LETTER LO LOOT
EA7aLAO LETTER WOcSANSKRIT SHAdSSAcSO SUNGcHO SUNGcPALI LLAcOcHO TAMbELLIPSIS
EB0aLAO VOWEL SIGN AdMAI KANdAAdAMdIeIdYeYdUeUbSIGN PALI VIRAMA
EBBaLAO VOWEL SIGN MAI KONbSEMIVOWEL SIGN LOdNYO
EC0aLAO VOWEL SIGN EeIdOdAYdAI
EC6aLAO KO LA
EC8aLAO TONE MAI EKdTHOdTIdCATAWAbCANCELLATION MARKbNIGGAHITA
ED0aLAO DIGIT ZEROcONEcTWOcTHREEcFOURcFIVEcSIXcSEVENcEIGHTcNINE
EDCaLAO HO NOcMObLETTER KHMU GOdNYO
F00aTIBETAN SYLLABLE OMbMARK GTER YIG MGO TRUNCATED Af-UM RNAM BCAD MA
F03aTIBETAN MARK GTER YIG MGO -UM GTER TSHEG MAcINITIAL YIG MGO MDUN MA
F05aTIBETAN MARK CLOSING YIG MGO SGAB MAcCARET YIG MGO PHUR SHAD MA
F07aTIBETAN MARK YIG MGO TSHEG SHAD MAcSBRUL SHADcBSKUR YIG MGO
F0AaTIBETAN MARK BKA- SHOG YIG MGOcINTERSYLLABIC TSHEGcDELIMITER TSHEG BSTAR
F0DaTIBETAN MARK SHADcNYIS SHADcTSHEG SHADcNYIS TSHEG SHAD
F11aTIBETAN MARK RIN CHEN SPUNGS SHADcRGYA GRAM SHAD
F13aTIBETAN MARK CARET -DZUD RTAGS ME LONG CANcGTER TSHEG
F15aTIBETAN LOGOTYPE SIGN CHAD RTAGSdLHAG RTAGS
F17aTIBETAN ASTROLOGICAL SIGN SGRA GCAN -CHAR RTAGSd-KHYUD PAdSDONG TSHUGS
F1AaTIBETAN SIGN RDEL DKAR GCIGeGNYISeGSUMdNAG GCIGeGNYISdDKAR RDEL NAG
F20aTIBETAN DIGIT ZEROcONEcTWOcTHREEcFOURcFIVEcSIXcSEVENcEIGHTcNINEcHALF ONE
F2BaTIBETAN DIGIT HALF TWOdTHREEdFOURdFIVEdSIXdSEVENdEIGHTdNINEdZERO
F34aTIBETAN MARK BSDUS RTAGScNGAS BZUNG NYI ZLAcCARET -DZUD RTAGS BZHI MIG CAN
F37aTIBETAN MARK NGAS BZUNG SGOR RTAGScCHE MGOcTSA -PHRUcGUG RTAGS GYONeGYAS
F3CaTIBETAN MARK ANG KHANG GYONeGYASbSIGN YAR TSHEScMAR TSHESbLETTER KAcKHAcGA
F43aTIBETAN LETTER GHAcNGAcCAcCHAcJA
F49aTIBETAN LETTER NYAcTTAcTTHAcDDAcDDHAcNNAcTAcTHAcDAcDHAcNAcPAcPHAcBAcBHAcMA
F59aTIBETAN LETTER TSAcTSHAcDZAcDZHAcWAcZHAcZAc-AcYAcRAcLAcSHAcSSAcSAcHAcA
F69aTIBETAN LETTER KSSAcFIXED-FORM RAcKKAcRRA
F71aTIBETAN VOWEL SIGN AAdIeIdUeUdVOCALIC RfReLfLdEeEdOeObSIGN RJES SU NGA RO
F7FaTIBETAN SIGN RNAM BCADbVOWEL SIGN REVERSED IfIbSIGN NYI ZLA NAA DA
F83aTIBETAN SIGN SNA LDANbMARK HALANTAcPALUTAbSIGN LCI RTAGScYANG RTAGS
F88aTIBETAN SIGN LCE TSA CANcMCHU CANcGRU CAN RGYINGSdMED RGYINGS
F8CaTIBETAN SIGN INVERTED MCHU CANbSUBJOINED SIGN LCE TSA CANdMCHU CAN
F8FaTIBETAN SUBJOINED SIGN INVERTED MCHU CANcLETTER KAdKHAdGAdGHAdNGAdCAdCHA
F97aTIBETAN SUBJOINED LETTER JA
F99aTIBETAN SUBJOINED LETTER NYAdTTAdTTHAdDDAdDDHAdNNAdTAdTHAdDAdDHAdNAdPAdPHA
FA6aTIBETAN SUBJOINED LETTER BAdBHAdMAdTSAdTSHAdDZAdDZHAdWAdZHAdZAd-AdYAdRAdLA
FB4aTIBETAN SUBJOINED LETTER SHAdSSAdSAdHAdAdKSSAdFIXED-FORM WAfYAfRA
FBEaTIBETAN KU RU KHAe BZHI MIG CANbCANTILLATION SIGN HEAVY BEATdLIGHT BEAT
FC2aTIBETAN CANTILLATION SIGN CANG TE-UdSBUB -CHALbSYMBOL DRIL BUcRDO RJE
FC6aTIBETAN SYMBOL PADMA GDANcRDO RJE RGYA GRAMcPHUR PAcNOR BUe NYIS -KHYIL
FCBaTIBETAN SYMBOL NOR BU GSUM -KHYILeBZHI -KHYIL
FCEaTIBETAN SIGN RDEL NAG RDEL DKAReGSUMbMARK BSKA- SHOG GI MGO RGYAN
FD1aTIBETAN MARK MNYAM YIG GI MGO RGYANcNYIS TSHEG
FD3aTIBETAN MARK INITIAL BRDA RNYING YIG MGO MDUN MA
FD4aTIBETAN MARK CLOSING BRDA RNYING YIG MGO SGAB MAaRIGHT-FACING SVASTI SIGN
FD6aLEFT-FACING SVASTI SIGNaRIGHT-FACING SVASTI SIGN WITH DOTS
FD8aLEFT-FACING SVASTI SIGN WITH DOTSaTIBETAN MARK LEADING MCHAN RTAGS
FDAaTIBETAN MARK TRAILING MCHAN RTAGS
1000aMYANMAR LETTER KAcKHAcGAcGHAcNGAcCAcCHAcJAcJHAcNYAcNNYAcTTAcTTHAcDDAcDDHA
100FaMYANMAR LETTER NNAcTAcTHAcDAcDHAcNAcPAcPHAcBAcBHAcMAcYAcRAcLAcWAcSAcHA
1020aMYANMAR LETTER LLAcAcSHAN AcIdIcUdUcEcMON EcOcAUbVOWEL SIGN TALL AAdAAdI
102EaMYANMAR VOWEL SIGN IIdUeUdEdAIdMON IIeOdE ABOVEbSIGN ANUSVARAcDOT BELOW
1038aMYANMAR SIGN VISARGAcVIRAMAcASATbCONSONANT SIGN MEDIAL YAeRAeWAeHA
103FaMYANMAR LETTER GREAT SAbDIGIT ZEROcONEcTWOcTHREEcFOURcFIVEcSIXcSEVEN
1048aMYANMAR DIGIT EIGHTcNINEbSIGN LITTLE SECTIONcSECTIONbSYMBOL LOCATIVE
104DaMYANMAR SYMBOL COMPLETEDcAFOREMENTIONEDcGENITIVEbLETTER SHAcSSAcVOCALIC R
1053aMYANMAR LETTER VOCALIC RRdLeLbVOWEL SIGN VOCALIC RfReLfLbLETTER MON NGA
105BaMYANMAR LETTER MON JHAdBBAdBBEbCONSONANT SIGN MON MEDIAL NAfMAfLA
1061aMYANMAR LETTER SGAW KAREN SHAbVOWEL SIGN SGAW KAREN EU
1063aMYANMAR TONE MARK SGAW KAREN HATHIfKE PHObLETTER WESTERN PWO KAREN THA
1066aMYANMAR LETTER WESTERN PWO KAREN PWAbVOWEL SIGN WESTERN PWO KAREN EUgUE
1069aMYANMAR SIGN WESTERN PWO KAREN TONE-1g2g3g4g5
106EaMYANMAR LETTER EASTERN PWO KAREN NNAfYWAfGHWAbVOWEL SIGN GEBA KAREN I
1072aMYANMAR VOWEL SIGN KAYAH OEeUeEEbLETTER SHAN KAdKHAdGAdCAdZAdNYAdDAdNA
107DaMYANMAR LETTER SHAN PHAdFAdBAdTHAdHAbCONSONANT SIGN SHAN MEDIAL WA
1083aMYANMAR VOWEL SIGN SHAN AAeEf ABOVEeFINAL YbSIGN SHAN TONE-2e3e5e6
108BaMYANMAR SIGN SHAN COUNCIL TONE-2f3eEMPHATIC TONEbLETTER RUMAI PALAUNG FA
108FaMYANMAR SIGN RUMAI PALAUNG TONE-5bSHAN DIGIT ZEROdONEdTWOdTHREEdFOURdFIVE
1096aMYANMAR SHAN DIGIT SIXdSEVENdEIGHTdNINEbSIGN KHAMTI TONE-1e3
109CaMYANMAR VOWEL SIGN AITON AfIbSYMBOL SHAN ONEdEXCLAMATION
10A0aGEORGIAN CAPITAL LETTER ANdBANdGANdDONdENdVINdZENdTANdINdKANdLASdMANdNAR
10ADaGEORGIAN CAPITAL LETTER ONdPARdZHARdRAEdSANdTARdUNdPHARdKHARdGHANdQAR
10B8aGEORGIAN CAPITAL LETTER SHINdCHINdCANdJILdCILdCHARdXANdJHANdHAEdHEdHIEdWE
10C4aGEORGIAN CAPITAL LETTER HARdHOE
10C7aGEORGIAN CAPITAL LETTER YN
10CDaGEORGIAN CAPITAL LETTER AEN
10D0aGEORGIAN LETTER ANcBANcGANcDONcENcVINcZENcTANcINcKANcLAScMANcNARcONcPAR
10DFaGEORGIAN LETTER ZHARcRAEcSANcTARcUNcPHARcKHARcGHANcQARcSHINcCHINcCANcJIL
10ECaGEORGIAN LETTER CILcCHARcXANcJHANcHAEcHEcHIEcWEcHARcHOEcFIcYNcELIFI
10F9aGEORGIAN LETTER TURNED GANcAINbPARAGRAPH SEPARATOR
10FCaMODIFIER LETTER GEORGIAN NARaGEORGIAN LETTER AENcHARD SIGNcLABIAL SIGN
1100aHANGUL CHOSEONG KIYEOKcSSANGKIYEOKcNIEUNcTIKEUTcSSANGTIKEUTcRIEULcMIEUM
1107aHANGUL CHOSEONG PIEUPcSSANGPIEUPcSIOScSSANGSIOScIEUNGcCIEUCcSSANGCIEUC
110EaHANGUL CHOSEONG CHIEUCHcKHIEUKHcTHIEUTHcPHIEUPHcHIEUHcNIEUN-KIYEOK
1114aHANGUL CHOSEONG SSANGNIEUNcNIEUN-TIKEUTdPIEUPcTIKEUT-KIYEOKcRIEUL-NIEUN
1119aHANGUL CHOSEONG SSANGRIEULcRIEUL-HIEUHcKAPYEOUNRIEULcMIEUM-PIEUP
111DaHANGUL CHOSEONG KAPYEOUNMIEUMcPIEUP-KIYEOKdNIEUNdTIKEUTdSIOSe-KIYEOK
1123aHANGUL CHOSEONG PIEUP-SIOS-TIKEUTePIEUPdSSANGSIOSdSIOS-CIEUCdCIEUC
1128aHANGUL CHOSEONG PIEUP-CHIEUCHdTHIEUTHdPHIEUPHcKAPYEOUNPIEUP
112CaHANGUL CHOSEONG KAPYEOUNSSANGPIEUPcSIOS-KIYEOKdNIEUNdTIKEUTdRIEULdMIEUM
1132aHANGUL CHOSEONG SIOS-PIEUPe-KIYEOKdSSANGSIOSdIEUNGdCIEUCdCHIEUCHdKHIEUKH
1139aHANGUL CHOSEONG SIOS-THIEUTHdPHIEUPHdHIEUHcCHITUEUMSIOScCHITUEUMSSANGSIOS
113EaHANGUL CHOSEONG CEONGCHIEUMSIOScCEONGCHIEUMSSANGSIOScPANSIOScIEUNG-KIYEOK
1142aHANGUL CHOSEONG IEUNG-TIKEUTdMIEUMdPIEUPdSIOSdPANSIOScSSANGIEUNG
1148aHANGUL CHOSEONG IEUNG-CIEUCdCHIEUCHdTHIEUTHdPHIEUPHcYESIEUNGcCIEUC-IEUNG
114EaHANGUL CHOSEONG CHITUEUMCIEUCcCHITUEUMSSANGCIEUCcCEONGCHIEUMCIEUC
1151aHANGUL CHOSEONG CEONGCHIEUMSSANGCIEUCcCHIEUCH-KHIEUKHdHIEUH
1154aHANGUL CHOSEONG CHITUEUMCHIEUCHcCEONGCHIEUMCHIEUCHcPHIEUPH-PIEUP
1157aHANGUL CHOSEONG KAPYEOUNPHIEUPHcSSANGHIEUHcYEORINHIEUHcKIYEOK-TIKEUT
115BaHANGUL CHOSEONG NIEUN-SIOSdCIEUCdHIEUHcTIKEUT-RIEULcFILLER
1160aHANGUL JUNGSEONG FILLERcAdEcYAdEcEOcEcYEOcYEcOcWAdEcOEcYOcUcWEOcWEcWIcYU
1173aHANGUL JUNGSEONG EUcYIcIcA-OdUcYA-OdYOcEO-OdUdEUcYEO-OdUcO-EOdEdYEdOdU
1184aHANGUL JUNGSEONG YO-YAeEdYEOdOdIcU-AeEdEO-EUdYEdUcYU-AdEOdEdYEOdYEdUdI
1195aHANGUL JUNGSEONG EU-UdEUcYI-UcI-AdYAdOdUdEUdARAEAcARAEAd-EOdUdI
11A2aHANGUL JUNGSEONG SSANGARAEAcA-EUcYA-UcYEO-YAcO-YAeEbJONGSEONG KIYEOK
11A9aHANGUL JONGSEONG SSANGKIYEOKcKIYEOK-SIOScNIEUNd-CIEUCdHIEUHcTIKEUTcRIEUL
11B0aHANGUL JONGSEONG RIEUL-KIYEOKdMIEUMdPIEUPdSIOSdTHIEUTHdPHIEUPHdHIEUH
11B7aHANGUL JONGSEONG MIEUMcPIEUPd-SIOScSIOScSSANGSIOScIEUNGcCIEUCcCHIEUCH
11BFaHANGUL JONGSEONG KHIEUKHcTHIEUTHcPHIEUPHcHIEUHcKIYEOK-RIEULdSIOS-KIYEOK
11C5aHANGUL JONGSEONG NIEUN-KIYEOKdTIKEUTdSIOSdPANSIOSdTHIEUTHcTIKEUT-KIYEOK
11CBaHANGUL JONGSEONG TIKEUT-RIEULcRIEUL-KIYEOK-SIOSdNIEUNdTIKEUTe-HIEUH
11D0aHANGUL JONGSEONG SSANGRIEULcRIEUL-MIEUM-KIYEOKeSIOSdPIEUP-SIOSeHIEUH
11D5aHANGUL JONGSEONG RIEUL-KAPYEOUNPIEUPdSSANGSIOSdPANSIOSdKHIEUKH
11D9aHANGUL JONGSEONG RIEUL-YEORINHIEUHcMIEUM-KIYEOKdRIEULdPIEUPdSIOS
11DEaHANGUL JONGSEONG MIEUM-SSANGSIOSdPANSIOSdCHIEUCHdHIEUHcKAPYEOUNMIEUM
11E3aHANGUL JONGSEONG PIEUP-RIEULdPHIEUPHdHIEUHcKAPYEOUNPIEUPcSIOS-KIYEOK
11E8aHANGUL JONGSEONG SIOS-TIKEUTdRIEULdPIEUPcPANSIOScIEUNG-KIYEOKdSSANGKIYEOK
11EEaHANGUL JONGSEONG SSANGIEUNGcIEUNG-KHIEUKHcYESIEUNGd-SIOSdPANSIOS
11F3aHANGUL JONGSEONG PHIEUPH-PIEUPcKAPYEOUNPHIEUPHcHIEUH-NIEUNdRIEULdMIEUM
11F8aHANGUL JONGSEONG HIEUH-PIEUPcYEORINHIEUHcKIYEOK-NIEUNdPIEUPdCHIEUCH
11FDaHANGUL JONGSEONG KIYEOK-KHIEUKHdHIEUHcSSANGNIEUNaETHIOPIC SYLLABLE HAcHU
1202aETHIOPIC SYLLABLE HIcHAAcHEEcHEcHOdAcLAcLUcLIcLAAcLEEcLEcLOcLWAcHHAcHHU
1212aETHIOPIC SYLLABLE HHIcHHAAcHHEEcHHEcHHOcHHWAcMAcMUcMIcMAAcMEEcMEcMOcMWA
1220aETHIOPIC SYLLABLE SZAcSZUcSZIcSZAAcSZEEcSZEcSZOcSZWAcRAcRUcRIcRAAcREEcRE
122EaETHIOPIC SYLLABLE ROcRWAcSAcSUcSIcSAAcSEEcSEcSOcSWAcSHAcSHUcSHIcSHAAcSHEE
123DaETHIOPIC SYLLABLE SHEcSHOcSHWAcQAcQUcQIcQAAcQEEcQEcQOdAcQWA
124AaETHIOPIC SYLLABLE QWIcQWAAcQWEEcQWE
1250aETHIOPIC SYLLABLE QHAcQHUcQHIcQHAAcQHEEcQHEcQHO
1258aETHIOPIC SYLLABLE QHWA
125AaETHIOPIC SYLLABLE QHWIcQHWAAcQHWEEcQHWE
1260aETHIOPIC SYLLABLE BAcBUcBIcBAAcBEEcBEcBOcBWAcVAcVUcVIcVAAcVEEcVEcVOcVWA
1270aETHIOPIC SYLLABLE TAcTUcTIcTAAcTEEcTEcTOcTWAcCAcCUcCIcCAAcCEEcCEcCOcCWA
1280aETHIOPIC SYLLABLE XAcXUcXIcXAAcXEEcXEcXOdAcXWA
128AaETHIOPIC SYLLABLE XWIcXWAAcXWEEcXWE
1290aETHIOPIC SYLLABLE NAcNUcNIcNAAcNEEcNEcNOcNWAcNYAcNYUcNYIcNYAAcNYEEcNYE
129EaETHIOPIC SYLLABLE NYOcNYWAcGLOTTAL AdUdIdAAdEEdEdOdWAcKAcKUcKIcKAAcKEEcKE
12AEaETHIOPIC SYLLABLE KOdAcKWA
12B2aETHIOPIC SYLLABLE KWIcKWAAcKWEEcKWE
12B8aETHIOPIC SYLLABLE KXAcKXUcKXIcKXAAcKXEEcKXEcKXO
12C0aETHIOPIC SYLLABLE KXWA
12C2aETHIOPIC SYLLABLE KXWIcKXWAAcKXWEEcKXWE
12C8aETHIOPIC SYLLABLE WAcWUcWIcWAAcWEEcWEcWOdAcPHARYNGEAL AdUdIdAAdEEdEdO
12D8aETHIOPIC SYLLABLE ZAcZUcZIcZAAcZEEcZEcZOcZWAcZHAcZHUcZHIcZHAAcZHEEcZHE
12E6aETHIOPIC SYLLABLE ZHOcZHWAcYAcYUcYIcYAAcYEEcYEcYOdAcDAcDUcDIcDAAcDEEcDE
12F6aETHIOPIC SYLLABLE DOcDWAcDDAcDDUcDDIcDDAAcDDEEcDDEcDDOcDDWAcJAcJUcJIcJAA
1304aETHIOPIC SYLLABLE JEEcJEcJOcJWAcGAcGUcGIcGAAcGEEcGEcGOdAcGWA
1312aETHIOPIC SYLLABLE GWIcGWAAcGWEEcGWE
1318aETHIOPIC SYLLABLE GGAcGGUcGGIcGGAAcGGEEcGGEcGGOcGGWAAcTHAcTHUcTHIcTHAA
1324aETHIOPIC SYLLABLE THEEcTHEcTHOcTHWAcCHAcCHUcCHIcCHAAcCHEEcCHEcCHOcCHWA
1330aETHIOPIC SYLLABLE PHAcPHUcPHIcPHAAcPHEEcPHEcPHOcPHWAcTSAcTSUcTSIcTSAA
133CaETHIOPIC SYLLABLE TSEEcTSEcTSOcTSWAcTZAcTZUcTZIcTZAAcTZEEcTZEcTZOdAcFAcFU
134AaETHIOPIC SYLLABLE FIcFAAcFEEcFEcFOcFWAcPAcPUcPIcPAAcPEEcPEcPOcPWAcRYAcMYA
135AaETHIOPIC SYLLABLE FYA
135DaETHIOPIC COMBINING GEMINATION AND VOWEL LENGTH MARKcVOWEL LENGTH MARK
135FaETHIOPIC COMBINING GEMINATION MARKbSECTION MARKbWORDSPACEbFULL STOPbCOMMA
1364aETHIOPIC SEMICOLONbCOLONbPREFACE COLONbQUESTION MARKbPARAGRAPH SEPARATOR
1369aETHIOPIC DIGIT ONEcTWOcTHREEcFOURcFIVEcSIXcSEVENcEIGHTcNINEbNUMBER TEN
1373aETHIOPIC NUMBER TWENTYcTHIRTYcFORTYcFIFTYcSIXTYcSEVENTYcEIGHTYcNINETY
137BaETHIOPIC NUMBER HUNDREDcTEN THOUSAND
1380aETHIOPIC SYLLABLE SEBATBEIT MWAcMWIcMWEEcMWEcSEBATBEIT BWAcBWIcBWEEcBWE
1388aETHIOPIC SYLLABLE SEBATBEIT FWAcFWIcFWEEcFWEcSEBATBEIT PWAcPWIcPWEEcPWE
1390aETHIOPIC TONAL MARK YIZETdDERETdRIKRIKdSHORT RIKRIKdDIFATdKENATdCHIRET
1397aETHIOPIC TONAL MARK HIDETdDERET-HIDETdKURT
13A0aCHEROKEE LETTER AcEcIcOcUcVcGAcKAcGEcGIcGOcGUcGVcHAcHEcHIcHOcHUcHVcLAcLE
13B5aCHEROKEE LETTER LIcLOcLUcLVcMAcMEcMIcMOcMUcNAcHNAcNAHcNEcNIcNOcNUcNVcQUA
13C7aCHEROKEE LETTER QUEcQUIcQUOcQUUcQUVcSAcSdEcSIcSOcSUcSVcDAcTAcDEcTEcDIcTI
13D9aCHEROKEE LETTER DOcDUcDVcDLAcTLAcTLEcTLIcTLOcTLUcTLVcTSAcTSEcTSIcTSOcTSU
13E8aCHEROKEE LETTER TSVcWAcWEcWIcWOcWUcWVcYAcYEcYIcYOcYUcYVcMV
13F8aCHEROKEE SMALL LETTER YEdYIdYOdYUdYVdMV
1400aCANADIAN SYLLABICS HYPHENcEcAAIcIdIcOdOcY-CREE OOcCARRIER EEdIcAdAcWE
140DaCANADIAN SYLLABICS WEST-CREE WEcWIcWEST-CREE WIcWIIcWEST-CREE WIIcWO
1413aCANADIAN SYLLABICS WEST-CREE WOcWOOcWEST-CREE WOOcNASKAPI WOOcWA
1418aCANADIAN SYLLABICS WEST-CREE WAcWAAcWEST-CREE WAAcNASKAPI WAAcAIcY-CREE W
141EaCANADIAN SYLLABICS GLOTTAL STOPcFINAL ACUTEdGRAVEdBOTTOM HALF RING
1422aCANADIAN SYLLABICS FINAL TOP HALF RINGdRIGHT HALF RINGdRINGdDOUBLE ACUTE
1426aCANADIAN SYLLABICS FINAL DOUBLE SHORT VERTICAL STROKESdMIDDLE DOT
1428aCANADIAN SYLLABICS FINAL SHORT HORIZONTAL STROKEdPLUSdDOWN TACKcENcINcON
142EaCANADIAN SYLLABICS ANcPEcPAAIcPIdIcPOdOcY-CREE POOcCARRIER HEEdHIcPAdA
143AaCANADIAN SYLLABICS PWEcWEST-CREE PWEcPWIcWEST-CREE PWIcPWII
143FaCANADIAN SYLLABICS WEST-CREE PWIIcPWOcWEST-CREE PWOcPWOOcWEST-CREE PWOO
1444aCANADIAN SYLLABICS PWAcWEST-CREE PWAcPWAAcWEST-CREE PWAAcY-CREE PWAAcP
144AaCANADIAN SYLLABICS WEST-CREE PcCARRIER HcTEcTAAIcTIdIcTOdOcY-CREE TOO
1453aCANADIAN SYLLABICS CARRIER DEEdDIcTAdAcTWEcWEST-CREE TWEcTWI
145AaCANADIAN SYLLABICS WEST-CREE TWIcTWIIcWEST-CREE TWIIcTWOcWEST-CREE TWO
145FaCANADIAN SYLLABICS TWOOcWEST-CREE TWOOcTWAcWEST-CREE TWAcTWAA
1464aCANADIAN SYLLABICS WEST-CREE TWAAcNASKAPI TWAAcTdTEcTTIcTTOcTTAcKEcKAAI
146DaCANADIAN SYLLABICS KIdIcKOdOcY-CREE KOOcKAdAcKWEcWEST-CREE KWEcKWI
1477aCANADIAN SYLLABICS WEST-CREE KWIcKWIIcWEST-CREE KWIIcKWOcWEST-CREE KWO
147CaCANADIAN SYLLABICS KWOOcWEST-CREE KWOOcKWAcWEST-CREE KWAcKWAA
1481aCANADIAN SYLLABICS WEST-CREE KWAAcNASKAPI KWAAcKdWcSOUTH-SLAVEY KEHeKIH
1487aCANADIAN SYLLABICS SOUTH-SLAVEY KOHeKAHcCEcCAAIcCIdIcCOdOcY-CREE COOcCAdA
1492aCANADIAN SYLLABICS CWEcWEST-CREE CWEcCWIcWEST-CREE CWIcCWII
1497aCANADIAN SYLLABICS WEST-CREE CWIIcCWOcWEST-CREE CWOcCWOOcWEST-CREE CWOO
149CaCANADIAN SYLLABICS CWAcWEST-CREE CWAcCWAAcWEST-CREE CWAAcNASKAPI CWAAcC
14A2aCANADIAN SYLLABICS SAYISI THcMEcMAAIcMIdIcMOdOcY-CREE MOOcMAdAcMWE
14ADaCANADIAN SYLLABICS WEST-CREE MWEcMWIcWEST-CREE MWIcMWIIcWEST-CREE MWII
14B2aCANADIAN SYLLABICS MWOcWEST-CREE MWOcMWOOcWEST-CREE MWOOcMWA
14B7aCANADIAN SYLLABICS WEST-CREE MWAcMWAAcWEST-CREE MWAAcNASKAPI MWAAcM
14BCaCANADIAN SYLLABICS WEST-CREE McMHcATHAPASCAN McSAYISI McNEcNAAIcNIdIcNOdO
14C6aCANADIAN SYLLABICS Y-CREE NOOcNAdAcNWEcWEST-CREE NWEcNWAcWEST-CREE NWA
14CDaCANADIAN SYLLABICS NWAAcWEST-CREE NWAAcNASKAPI NWAAcNcCARRIER NGcNHcLE
14D4aCANADIAN SYLLABICS LAAIcLIdIcLOdOcY-CREE LOOcLAdAcLWEcWEST-CREE LWEcLWI
14DFaCANADIAN SYLLABICS WEST-CREE LWIcLWIIcWEST-CREE LWIIcLWOcWEST-CREE LWO
14E4aCANADIAN SYLLABICS LWOOcWEST-CREE LWOOcLWAcWEST-CREE LWAcLWAA
14E9aCANADIAN SYLLABICS WEST-CREE LWAAcLcWEST-CREE LcMEDIAL LcSEcSAAIcSIdIcSO
14F2aCANADIAN SYLLABICS SOOcY-CREE SOOcSAdAcSWEcWEST-CREE SWEcSWI
14F9aCANADIAN SYLLABICS WEST-CREE SWIcSWIIcWEST-CREE SWIIcSWOcWEST-CREE SWO
14FEaCANADIAN SYLLABICS SWOOcWEST-CREE SWOOcSWAcWEST-CREE SWAcSWAA
1503aCANADIAN SYLLABICS WEST-CREE SWAAcNASKAPI SWAAcScATHAPASCAN ScSW
1508aCANADIAN SYLLABICS BLACKFOOT ScMOOSE-CREE SKcNASKAPI SKWdS-WdSPWAdSTWA
150EaCANADIAN SYLLABICS NASKAPI SKWAdSCWAcSHEcSHIdIcSHOdOcSHAdAcSHWE
1518aCANADIAN SYLLABICS WEST-CREE SHWEcSHWIcWEST-CREE SHWIcSHWII
151CaCANADIAN SYLLABICS WEST-CREE SHWIIcSHWOcWEST-CREE SHWOcSHWOO
1520aCANADIAN SYLLABICS WEST-CREE SHWOOcSHWAcWEST-CREE SHWAcSHWAA
1524aCANADIAN SYLLABICS WEST-CREE SHWAAcSHcYEcYAAIcYIdIcYOdOcY-CREE YOOcYAdA
152FaCANADIAN SYLLABICS YWEcWEST-CREE YWEcYWIcWEST-CREE YWIcYWII
1534aCANADIAN SYLLABICS WEST-CREE YWIIcYWOcWEST-CREE YWOcYWOOcWEST-CREE YWOO
1539aCANADIAN SYLLABICS YWAcWEST-CREE YWAcYWAAcWEST-CREE YWAAcNASKAPI YWAAcY
153FaCANADIAN SYLLABICS BIBLE-CREE YcWEST-CREE YcSAYISI YIcREcR-CREE RE
1544aCANADIAN SYLLABICS WEST-CREE LEcRAAIcRIdIcROdOcWEST-CREE LOcRAdA
154DaCANADIAN SYLLABICS WEST-CREE LAcRWAAcWEST-CREE RWAAcRcWEST-CREE R
1552aCANADIAN SYLLABICS MEDIAL RcFEcFAAIcFIdIcFOdOcFAdAcFWAAcWEST-CREE FWAAcF
155EaCANADIAN SYLLABICS THEcN-CREE THEcTHIcN-CREE THIcTHIIcN-CREE THIIcTHOdO
1566aCANADIAN SYLLABICS THAdAcTHWAAcWEST-CREE THWAAcTHcTTHEcTTHIcTTHOcTTHAcTTH
1570aCANADIAN SYLLABICS TYEcTYIcTYOcTYAcNUNAVIK HEdHIeIdHOeOdHAeAdHcNUNAVUT H
157DaCANADIAN SYLLABICS HKcQAAIcQIdIcQOdOcQAdAcQcTLHEcTLHIcTLHOcTLHA
158AaCANADIAN SYLLABICS WEST-CREE REeRIeROeRAcNGAAIcNGIdIcNGOdOcNGAdAcNGcNNG
1597aCANADIAN SYLLABICS SAYISI SHEdSHIdSHOdSHAcWOODS-CREE THEeTHIeTHOeTHAeTH
15A0aCANADIAN SYLLABICS LHIdIcLHOdOcLHAdAcLHcTH-CREE THEeTHIfIeTHOfOeTHAfAeTH
15AFaCANADIAN SYLLABICS AIVILIK BcBLACKFOOT EdIdOdAdWEdWIdWOdWAdNEdNIdNOdNAdKE
15BDaCANADIAN SYLLABICS BLACKFOOT KIdKOdKAcSAYISI HEdHIdHOdHAcCARRIER GHUdGHO
15C6aCANADIAN SYLLABICS CARRIER GHEeEdGHIdGHAdRUdROdREeEdRIdRAdWUdWOdWEeEdWI
15D5aCANADIAN SYLLABICS CARRIER WAdHWUdHWOdHWEeEdHWIdHWAdTHUdTHOdTHEeEdTHIdTHA
15E2aCANADIAN SYLLABICS CARRIER TTUdTTOdTTEeEdTTIdTTAdPUdPOdPEeEdPIdPAdPdGUdGO
15F1aCANADIAN SYLLABICS CARRIER GEeEdGIdGAdKHUdKHOdKHEeEdKHIdKHAdKKUdKKOdKKEeE
15FFaCANADIAN SYLLABICS CARRIER KKIdKKAdKKdNUdNOdNEeEdNIdNAdMUdMOdMEeEdMIdMA
160EaCANADIAN SYLLABICS CARRIER YUdYOdYEeEdYIdYAdJUcSAYISI JUcCARRIER JOdJEeE
1619aCANADIAN SYLLABICS CARRIER JIcSAYISI JIcCARRIER JAdJJUdJJOdJJEeEdJJIdJJA
1622aCANADIAN SYLLABICS CARRIER LUdLOdLEeEdLIdLAdDLUdDLOdDLEeEdDLIdDLAdLHUdLHO
1630aCANADIAN SYLLABICS CARRIER LHEeEdLHIdLHAdTLHUdTLHOdTLHEeEdTLHIdTLHAdTLU
163BaCANADIAN SYLLABICS CARRIER TLOdTLEeEdTLIdTLAdZUdZOdZEeEdZIdZAdZdINITIAL Z
1648aCANADIAN SYLLABICS CARRIER DZUdDZOdDZEeEdDZIdDZAdSUdSOdSEeEdSIdSAdSHUdSHO
1656aCANADIAN SYLLABICS CARRIER SHEeEdSHIdSHAdSHdTSUdTSOdTSEeEdTSIdTSAdCHUdCHO
1663aCANADIAN SYLLABICS CARRIER CHEeEdCHIdCHAdTTSUdTTSOdTTSEeEdTTSIdTTSA
166DaCANADIAN SYLLABICS CHI SIGNcFULL STOPcQAIcNGAIcNNGIdIcNNGOdOcNNGAdA
1677aCANADIAN SYLLABICS WOODS-CREE THWEEeTHWIfIeTHWOfOeTHWAfAeFINAL TH
167FaCANADIAN SYLLABICS BLACKFOOT WaOGHAM SPACE MARKbLETTER BEITHcLUIScFEARN
1684aOGHAM LETTER SAILcNIONcUATHcDAIRcTINNEcCOLLcCEIRTcMUINcGORTcNGEADAL
168EaOGHAM LETTER STRAIFcRUIScAILMcONNcURcEADHADHcIODHADHcEABHADHcORcUILLEANN
1698aOGHAM LETTER IFINcEAMHANCHOLLcPEITHbFEATHER MARKbREVERSED FEATHER MARK
16A0aRUNIC LETTER FEHU FEOH FE FcVcURUZ UR UcYRcYcWcTHURISAZ THURS THORNcETH
16A8aRUNIC LETTER ANSUZ AcOS OcAC AcAESCcLONG-BRANCH-OSS OcSHORT-TWIG-OSS OcO
16AFaRUNIC LETTER OEcONcRAIDO RAD REID RcKAUNAcCENcKAUN KcGcENGcGEBO GYFU G
16B8aRUNIC LETTER GARcWUNJO WYNN WcHAGLAZ HcHAEGL HcLONG-BRANCH-HAGALL H
16BDaRUNIC LETTER SHORT-TWIG-HAGALL HcNAUDIZ NYD NAUD NcSHORT-TWIG-NAUD N
16C0aRUNIC LETTER DOTTED-NcISAZ IS ISS IcEcJERAN JcGERcLONG-BRANCH-AR AE
16C6aRUNIC LETTER SHORT-TWIG-AR AcIWAZ EOHcPERTHO PEORTH PcALGIZ EOLHX
16CAaRUNIC LETTER SOWILO ScSIGEL LONG-BRANCH-SOL ScSHORT-TWIG-SOL ScCcZ
16CFaRUNIC LETTER TIWAZ TIR TYR TcSHORT-TWIG-TYR TcDcBERKANAN BEORC BJARKAN B
16D3aRUNIC LETTER SHORT-TWIG-BJARKAN BcDOTTED-PcOPEN-PcEHWAZ EH EcMANNAZ MAN M
16D8aRUNIC LETTER LONG-BRANCH-MADR McSHORT-TWIG-MADR McLAUKAZ LAGU LOGR L
16DBaRUNIC LETTER DOTTED-LcINGWAZcINGcDAGAZ DAEG DcOTHALAN ETHEL OcEARcIOR
16E2aRUNIC LETTER CWEORTHcCALCcCEALCcSTANcLONG-BRANCH-YRcSHORT-TWIG-YR
16E8aRUNIC LETTER ICELANDIC-YRcQcXbSINGLE PUNCTUATIONbMULTIPLE PUNCTUATION
16EDaRUNIC CROSS PUNCTUATIONbARLAUG SYMBOLbTVIMADUR SYMBOLbBELGTHOR SYMBOL
16F1aRUNIC LETTER KcSHcOOcFRANKS CASKET OSeISeEHeACeAESC
1700aTAGALOG LETTER AcIcUcKAcGAcNGAcTAcDAcNAcPAcBAcMAcYAcRAcLAcWAcSAcHA
1712aTAGALOG VOWEL SIGN IdUbSIGN VIRAMAcPAMUDPOD
171FaTAGALOG LETTER ARCHAIC RAaHANUNOO LETTER AcIcUcKAcGAcNGAcTAcDAcNAcPAcBA
172BaHANUNOO LETTER MAcYAcRAcLAcWAcSAcHAbVOWEL SIGN IdUbSIGN PAMUDPOD
1735aPHILIPPINE SINGLE PUNCTUATIONbDOUBLE PUNCTUATION
1740aBUHID LETTER AcIcUcKAcGAcNGAcTAcDAcNAcPAcBAcMAcYAcRAcLAcWAcSAcHA
1752aBUHID VOWEL SIGN IdU
1760aTAGBANWA LETTER AcIcUcKAcGAcNGAcTAcDAcNAcPAcBAcMAcYA
176EaTAGBANWA LETTER LAcWAcSA
1772aTAGBANWA VOWEL SIGN IdU
1780aKHMER LETTER KAcKHAcKOcKHOcNGOcCAcCHAcCOcCHOcNYOcDAcTTHAcDOcTTHOcNNOcTA
1790aKHMER LETTER THAcTOcTHOcNOcBAcPHAcPOcPHOcMOcYOcROcLOcVOcSHAcSSOcSAcHAcLA
17A2aKHMER LETTER QAbINDEPENDENT VOWEL QAQdQAAdQIeIdQUeKdQUUeVdRYeYdLYeYdQE
17B0aKHMER INDEPENDENT VOWEL QAIdQOO TYPE ONEfTWOdQAUbVOWEL INHERENT AQdAA
17B6aKHMER VOWEL SIGN AAdIeIdYeYdUeUdUAdOEdYAdIEdEdAEdAIdOOdAUbSIGN NIKAHIT
17C7aKHMER SIGN REAHMUKcYUUKALEAPINTUcMUUSIKATOANcTRIISAPcBANTOCcROBAT
17CDaKHMER SIGN TOANDAKHIATcKAKABATcAHSDAcSAMYOK SANNYAcVIRIAMcCOENG
17D3aKHMER SIGN BATHAMASATcKHANcBARIYOOSANcCAMNUC PII KUUHcLEK TOOcBEYYAL
17D9aKHMER SIGN PHNAEK MUANcKOOMUUTbCURRENCY SYMBOL RIELbSIGN AVAKRAHASANYA
17DDaKHMER SIGN ATTHACAN
17E0aKHMER DIGIT ZEROcONEcTWOcTHREEcFOURcFIVEcSIXcSEVENcEIGHTcNINE
17F0aKHMER SYMBOL LEK ATTAK SONeMUOYePIIeBEIeBUONePRAMf-MUOYfPIIfBEIfBUON
1800aMONGOLIAN BIRGAbELLIPSISbCOMMAbFULL STOPbCOLONbFOUR DOTSbTODO SOFT HYPHEN
1807aMONGOLIAN SIBE SYLLABLE BOUNDARY MARKERbMANCHU COMMAcFULL STOPbNIRUGU
180BaMONGOLIAN FREE VARIATION SELECTOR ONEeTWOeTHREEbVOWEL SEPARATOR
180FaMONGOLIAN FREE VARIATION SELECTOR FOURbDIGIT ZEROcONEcTWOcTHREEcFOURcFIVE
1816aMONGOLIAN DIGIT SIXcSEVENcEIGHTcNINE
1820aMONGOLIAN LETTER AcEcIcOcUcOEcUEcEEcNAcANGcBAcPAcQAcGAcMAcLAcSAcSHAcTAcDA
1834aMONGOLIAN LETTER CHAcJAcYAcRAcWAcFAcKAcKHAcTSAcZAcHAAcZRAcLHAcZHIcCHI
1843aMONGOLIAN LETTER TODO LONG VOWEL SIGNdEdIdOdUdOEdUEdANGdBAdPAdQAdGAdMAdTA
1851aMONGOLIAN LETTER TODO DAdCHAdJAdTSAdYAdWAdKAdGAAdHAAdJIAdNIAdDZAcSIBE EdI
185FaMONGOLIAN LETTER SIBE IYdUEdUdANGdKAdGAdHAdPAdSHAdTAdDAdJAdFAdGAAdHAAdTSA
186FaMONGOLIAN LETTER SIBE ZAdRAAdCHAdZHAcMANCHU IdKAdRAdFAdZHA
1878aMONGOLIAN LETTER CHA WITH TWO DOTS
1880aMONGOLIAN LETTER ALI GALI ANUSVARA ONEeVISARGA ONEeDAMARUeUBADAMA
1884aMONGOLIAN LETTER ALI GALI INVERTED UBADAMAeBALUDAeTHREE BALUDAeAeIeKAeNGA
188BaMONGOLIAN LETTER ALI GALI CAeTTAeTTHAeDDAeNNAeTAeDAePAePHAeSSAeZHAeZAeAH
1898aMONGOLIAN LETTER TODO ALI GALI TAfZHAcMANCHU ALI GALI GHAfNGAfCAfJHAfTTA
189FaMONGOLIAN LETTER MANCHU ALI GALI DDHAfTAfDHAfSSAfCYAfZHAfZA
18A6aMONGOLIAN LETTER ALI GALI HALF UfYAcMANCHU ALI GALI BHAcALI GALI DAGALGA
18AAaMONGOLIAN LETTER MANCHU ALI GALI LHA
18B0aCANADIAN SYLLABICS OYcAYcAAYcWAYcPOYcPAYcPWOYcTAYcKAYcKWAYcMAYcNOYcNAY
18BDaCANADIAN SYLLABICS LAYcSOYcSAYcSHOYcSHAYcSHWOYcYOYcYAYcRAYcNWI
18C7aCANADIAN SYLLABICS OJIBWAY NWIcNWIIcOJIBWAY NWIIcNWOcOJIBWAY NWOcNWOO
18CDaCANADIAN SYLLABICS OJIBWAY NWOOcRWEEcRWIdIcRWOdOcRWAcOJIBWAY PdTdKdCdMdN
18DAaCANADIAN SYLLABICS OJIBWAY SeHcEASTERN WcWESTERN WcFINAL SMALL RING
18DFaCANADIAN SYLLABICS FINAL RAISED DOTcR-CREE RWEcWEST-CREE LOOeLAAcTHWE
18E4aCANADIAN SYLLABICS THWAcTTHWEcTTHOOcTTHAAcTLHWEcTLHOOcSAYISI SHWEdSHOO
18ECaCANADIAN SYLLABICS SAYISI HOOcCARRIER GWUdDENE GEEdGAAdGWAcSAYISI JUU
18F2aCANADIAN SYLLABICS CARRIER JWAcBEAVER DENE LeRcCARRIER DENTAL S
1900aLIMBU VOWEL-CARRIER LETTERbLETTER KAcKHAcGAcGHAcNGAcCAcCHAcJAcJHAcYANcTA
190CaLIMBU LETTER THAcDAcDHAcNAcPAcPHAcBAcBHAcMAcYAcRAcLAcWAcSHAcSSAcSAcHA
191DaLIMBU LETTER GYANcTRA
1920aLIMBU VOWEL SIGN AdIdUdEEdAIdOOdAUdEdObSUBJOINED LETTER YAdRAdWA
1930aLIMBU SMALL LETTER KAdNGAdANUSVARAdTAdNAdPAdMAdRAdLAbSIGN MUKPHRENG
193AaLIMBU SIGN KEMPHRENGcSA-I
1940aLIMBU SIGN LOO
1944aLIMBU EXCLAMATION MARKbQUESTION MARKbDIGIT ZEROcONEcTWOcTHREEcFOURcFIVE
194CaLIMBU DIGIT SIXcSEVENcEIGHTcNINEaTAI LE LETTER KAdXAdNGAdTSAdSAdYAdTAdTHA
1958aTAI LE LETTER LAdPAdPHAdMAdFAdVAdHAdQAdKHAdTSHAdNAdAdIdEEdEHdUdOOdOdUEdE
196CaTAI LE LETTER AUEdAI
1970aTAI LE LETTER TONE-2e3e4e5e6
1980aNEW TAI LUE LETTER HIGH QAeLOW QAeHIGH KAfXAfNGAeLOW KAfXAfNGAeHIGH TSA
1989aNEW TAI LUE LETTER HIGH SAfYAeLOW TSAfSAfYAeHIGH TAfTHAfNAeLOW TAfTHAfNA
1994aNEW TAI LUE LETTER HIGH PAfPHAfMAeLOW PAfPHAfMAeHIGH FAfVAfLAeLOW FAfVA
199FaNEW TAI LUE LETTER LOW LAeHIGH HAfDAfBAeLOW HAfDAfBAeHIGH KVAfXVAeLOW KVA
19A9aNEW TAI LUE LETTER LOW XVAeHIGH SUAeLOW SUA
19B0aNEW TAI LUE VOWEL SIGN VOWEL SHORTENERfAAfIIfUgUfEfAEfOgAfUEfAYfAAYfUYfOY
19BEaNEW TAI LUE VOWEL SIGN OAYfUEYfIYdLETTER FINAL VfNGfNfMfKfDfBdTONE MARK-1
19C9aNEW TAI LUE TONE MARK-2
19D0aNEW TAI LUE DIGIT ZEROeONEeTWOeTHREEeFOUReFIVEeSIXeSEVENeEIGHTeNINE
19DAaNEW TAI LUE THAM DIGIT ONE
19DEaNEW TAI LUE SIGN LAEfVaKHMER SYMBOL PATHAMASATcMUOY KOETcPII KOET
19E3aKHMER SYMBOL BEI KOETcBUON KOETcPRAM KOETcPRAM-MUOY KOETdPII KOET
19E8aKHMER SYMBOL PRAM-BEI KOETdBUON KOETcDAP KOETcDAP-MUOY KOETdPII KOET
19EDaKHMER SYMBOL DAP-BEI KOETdBUON KOETdPRAM KOETcTUTEYASATcMUOY ROCcPII ROC
19F3aKHMER SYMBOL BEI ROCcBUON ROCcPRAM ROCcPRAM-MUOY ROCdPII ROCdBEI ROC
19F9aKHMER SYMBOL PRAM-BUON ROCcDAP ROCcDAP-MUOY ROCdPII ROCdBEI ROCdBUON ROC
19FFaKHMER SYMBOL DAP-PRAM ROCaBUGINESE LETTER KAcGAcNGAcNGKAcPAcBAcMAcMPAcTA
1A09aBUGINESE LETTER DAcNAcNRAcCAcJAcNYAcNYCAcYAcRAcLAcVAcSAcAcHAbVOWEL SIGN I
1A18aBUGINESE VOWEL SIGN UdEdOdAE
1A1EaBUGINESE PALLAWAbEND OF SECTIONaTAI THAM LETTER HIGH KAeKHAeKXAdLOW KA
1A24aTAI THAM LETTER LOW KXAeKHAdNGAdHIGH CAeCHAdLOW CAeSAeCHAdNYAdRATA
1A2EaTAI THAM LETTER HIGH RATHAdDAdLOW RATHAdRANAdHIGH TAeTHAdLOW TAeTHAdNAdBA
1A38aTAI THAM LETTER HIGH PAePHAeFAdLOW PAeFAePHAdMAdLOW YAdHIGH YAdRAdRUEdLA
1A44aTAI THAM LETTER LUEdWAdHIGH SHAeSSAeSAeHAdLLAdAdLOW HAdIeIdUeUdEEdOOdLAE
1A54aTAI THAM LETTER GREAT SAcCONSONANT SIGN MEDIAL RAfLAeLA TANG LAI
1A58aTAI THAM SIGN MAI KANG LAIcCONSONANT SIGN FINAL NGAeLOW PA
1A5BaTAI THAM CONSONANT SIGN HIGH RATHA OR LOW PAeMAeBAeSA
1A60aTAI THAM SIGN SAKOTcVOWEL SIGN AeMAI SATeAAeTALL AAeIfIeUEeUUEeUfUeO
1A6CaTAI THAM VOWEL SIGN OA BELOWeOYeEeAEeOOeAIeTHAM AIeOA ABOVEcSIGN MAI KANG
1A75aTAI THAM SIGN TONE-1e2dKHUEN TONE-3f4f5dRA HAAMdMAI SAMdKHUEN-LUE KARAN
1A7FaTAI THAM COMBINING CRYPTOGRAMMIC DOTcHORA DIGIT ZEROeONEeTWOeTHREEeFOUR
1A85aTAI THAM HORA DIGIT FIVEeSIXeSEVENeEIGHTeNINE
1A90aTAI THAM THAM DIGIT ZEROeONEeTWOeTHREEeFOUReFIVEeSIXeSEVENeEIGHTeNINE
1AA0aTAI THAM SIGN WIANGeWAAKdSAWANdKEOWdHOYdDOKMAIdREVERSED ROTATED RANA
1AA7aTAI THAM SIGN MAI YAMOKdKAANeKUUdSATKAANeKUUdHANGdCAANG
1AB0aCOMBINING DOUBLED CIRCUMFLEX ACCENTbDIAERESIS-RINGbINFINITY
1AB3aCOMBINING DOWNWARDS ARROWbTRIPLE DOTbX-X BELOWbWIGGLY LINE BELOW
1AB7aCOMBINING OPEN MARK BELOWbDOUBLE OPEN MARK BELOW
1AB9aCOMBINING LIGHT CENTRALIZATION STROKE BELOW
1ABAaCOMBINING STRONG CENTRALIZATION STROKE BELOWbPARENTHESES ABOVE
1ABCaCOMBINING DOUBLE PARENTHESES ABOVEbPARENTHESES BELOWcOVERLAY
1ABFaCOMBINING LATIN SMALL LETTER W BELOWeTURNED W BELOW
1AC1aCOMBINING LEFT PARENTHESIS ABOVE LEFTbRIGHT PARENTHESIS ABOVE RIGHT
1AC3aCOMBINING LEFT PARENTHESIS BELOW LEFTbRIGHT PARENTHESIS BELOW RIGHT
1AC5aCOMBINING SQUARE BRACKETS ABOVEbNUMBER SIGN ABOVE
1AC7aCOMBINING INVERTED DOUBLE ARCH ABOVEbPLUS SIGN ABOVE
1AC9aCOMBINING DOUBLE PLUS SIGN ABOVEeBELOWbTRIPLE ACUTE ACCENT
1ACCaCOMBINING LATIN SMALL LETTER INSULAR GfRfT
1B00aBALINESE SIGN ULU RICEMdCANDRAcCECEKcSURANGcBISAHbLETTER AKARAd TEDUNG
1B07aBALINESE LETTER IKARAd TEDUNGcUKARAd TEDUNGcRA REPAe TEDUNGcLA LENGA
1B0EaBALINESE LETTER LA LENGA TEDUNGcEKARAcAIKARAcOKARAd TEDUNGcKAd MAHAPRANA
1B15aBALINESE LETTER GAd GORAcNGAcCAd LACAcJAd JERAcNYAcTA LATIK
1B1EaBALINESE LETTER TA MURDA MAHAPRANAcDA MURDA ALPAPRANAeMAHAPRANAcNA RAMBAT
1B22aBALINESE LETTER TAd TAWAcDAd MADUcNAcPAd KAPALcBAd KEMBANGcMAcYAcRAcLAcWA
1B30aBALINESE LETTER SA SAGAdSAPAcSAcHAbSIGN REREKANbVOWEL SIGN TEDUNGdULU
1B37aBALINESE VOWEL SIGN ULU SARIdSUKUe ILUTdRA REPAf TEDUNGdLA LENGAf TEDUNG
1B3EaBALINESE VOWEL SIGN TALINGe REPAeTEDUNGeREPA TEDUNGdPEPETe TEDUNG
1B44aBALINESE ADEG ADEGbLETTER KAF SASAKcKHOT SASAKcTZIR SASAKcEF SASAK
1B49aBALINESE LETTER VE SASAKcZAL SASAKcASYURA SASAKcARCHAIC JNYA
1B50aBALINESE DIGIT ZEROcONEcTWOcTHREEcFOURcFIVEcSIXcSEVENcEIGHTcNINEbPANTI
1B5BaBALINESE PAMADAbWINDUbCARIK PAMUNGKAHcSIKIcPARERENbPAMENENG
1B61aBALINESE MUSICAL SYMBOL DONGdDENGdDUNGdDANGe SURANGdDINGdDAENGdDEUNG
1B69aBALINESE MUSICAL SYMBOL DAINGdDANG GEDEdCOMBINING TEGEHeENDEPeKEMPUL
1B6EaBALINESE MUSICAL SYMBOL COMBINING KEMPLIeJEGOGANeKEMPUL WITH JEGOGAN
1B71aBALINESE MUSICAL SYMBOL COMBINING KEMPLI WITH JEGOGANeBENDEeGONG
1B74aBALINESE MUSICAL SYMBOL RIGHT-HAND OPEN DUGgDAGfCLOSED TUKgTAK
1B78aBALINESE MUSICAL SYMBOL LEFT-HAND OPEN PANGgPUNGfCLOSED PLAKgPLUK
1B7CaBALINESE MUSICAL SYMBOL LEFT-HAND OPEN PINGbPANTI LANTANGbPAMADA LANTANG
1B80aSUNDANESE SIGN PANYECEKcPANGLAYARcPANGWISADbLETTER AcIcUcAEcOcEdUcKAcQA
1B8CaSUNDANESE LETTER GAcNGAcCAcJAcZAcNYAcTAcDAcNAcPAcFAcVAcBAcMAcYAcRAcLAcWA
1B9EaSUNDANESE LETTER SAcXAcHAbCONSONANT SIGN PAMINGKALdPANYAKRAdPANYIKU
1BA4aSUNDANESE VOWEL SIGN PANGHULUdPANYUKUdPANAELAENGdPANOLONGdPAMEPET
1BA9aSUNDANESE VOWEL SIGN PANEULEUNGbSIGN PAMAAEHcVIRAMA
1BACaSUNDANESE CONSONANT SIGN PASANGAN MAeWAbLETTER KHAcSYAbDIGIT ZEROcONEcTWO
1BB3aSUNDANESE DIGIT THREEcFOURcFIVEcSIXcSEVENcEIGHTcNINEbAVAGRAHAbLETTER REU
1BBCaSUNDANESE LETTER LEUcBHAcFINAL KdMaBATAK LETTER AcSIMALUNGUN AcHA
1BC3aBATAK LETTER SIMALUNGUN HAcMANDAILING HAcBAcKARO BAcPAcSIMALUNGUN PAcNA
1BCAaBATAK LETTER MANDAILING NAcWAcSIMALUNGUN WAcPAKPAK WAcGAcSIMALUNGUN GAcJA
1BD1aBATAK LETTER DAcRAcSIMALUNGUN RAcMAcSIMALUNGUN MAcSOUTHERN TAcNORTHERN TA
1BD8aBATAK LETTER SAcSIMALUNGUN SAcMANDAILING SAcYAcSIMALUNGUN YAcNGAcLA
1BDFaBATAK LETTER SIMALUNGUN LAcNYAcCAcNDAcMBAcIcUbSIGN TOMPIbVOWEL SIGN E
1BE8aBATAK VOWEL SIGN PAKPAK EdEEdIdKARO IdOdKARO OdUe FOR SIMALUNGUN SA
1BF0aBATAK CONSONANT SIGN NGdHbPANGOLATbPANONGONAN
1BFCaBATAK SYMBOL BINDU NA METEKdPINARBORASdJUDULdPANGOLATaLEPCHA LETTER KA
1C01aLEPCHA LETTER KLAcKHAcGAcGLAcNGAcCAcCHAcJAcNYAcTAcTHAcDAcNAcPAcPLAcPHAcFA
1C12aLEPCHA LETTER FLAcBAcBLAcMAcMLAcTSAcTSHAcDZAcYAcRAcLAcHAcHLAcVAcSAcSHAcWA
1C23aLEPCHA LETTER AbSUBJOINED LETTER YAdRAbVOWEL SIGN AAdIdOeOdUeUdE
1C2DaLEPCHA CONSONANT SIGN KdMdLdNdPdRdTdNYIN-DOdKANGbSIGN RANcNUKTA
1C3BaLEPCHA PUNCTUATION TA-ROLcNYET THYOOM TA-ROLcCER-WAcTSHOOK CER-WAcTSHOOK
1C40aLEPCHA DIGIT ZEROcONEcTWOcTHREEcFOURcFIVEcSIXcSEVENcEIGHTcNINE
1C4DaLEPCHA LETTER TTAcTTHAcDDAaOL CHIKI DIGIT ZEROdONEdTWOdTHREEdFOURdFIVE
1C56aOL CHIKI DIGIT SIXdSEVENdEIGHTdNINEcLETTER LAdATdAGdANGdALdLAAdAAKdAAJ
1C62aOL CHIKI LETTER AAMdAAWdLIdISdIHdINYdIRdLUdUCdUDdUNNdUYdLEdEPdEDDdENdERR
1C73aOL CHIKI LETTER LOdOTTdOBdOVdOHcMU TTUDDAGcGAAHLAA TTUDDAAG
1C7AaOL CHIKI MU-GAAHLAA TTUDDAAGcRELAAcPHAARKAAcAHADcPUNCTUATION MUCAAD
1C7FaOL CHIKI PUNCTUATION DOUBLE MUCAADaCYRILLIC SMALL LETTER ROUNDED VE
1C81aCYRILLIC SMALL LETTER LONG-LEGGED DEdNARROW OdWIDE ESdTALL TE
1C85aCYRILLIC SMALL LETTER THREE-LEGGED TEdTALL HARD SIGNeYATdUNBLENDED UK
1C90aGEORGIAN MTAVRULI CAPITAL LETTER ANeBANeGANeDONeENeVINeZENeTANeINeKANeLAS
1C9BaGEORGIAN MTAVRULI CAPITAL LETTER MANeNAReONePAReZHAReRAEeSANeTAReUNePHAR
1CA5aGEORGIAN MTAVRULI CAPITAL LETTER KHAReGHANeQAReSHINeCHINeCANeJILeCILeCHAR
1CAEaGEORGIAN MTAVRULI CAPITAL LETTER XANeJHANeHAEeHEeHIEeWEeHAReHOEeFIeYN
1CB8aGEORGIAN MTAVRULI CAPITAL LETTER ELIFIeTURNED GANeAIN
1CBDaGEORGIAN MTAVRULI CAPITAL LETTER AENeHARD SIGNeLABIAL SIGN
1CC0aSUNDANESE PUNCTUATION BINDU SURYAdPANGLONGdPURNAMAdCAKRAdLEU SATANGA
1CC5aSUNDANESE PUNCTUATION BINDU KA SATANGAdDA SATANGAdBA SATANGA
1CD0aVEDIC TONE KARSHANAcSHARAcPRENKHAbSIGN NIHSHVASA
1CD4aVEDIC SIGN YAJURVEDIC MIDLINE SVARITA
1CD5aVEDIC TONE YAJURVEDIC AGGRAVATED INDEPENDENT SVARITAdINDEPENDENT SVARITA
1CD7aVEDIC TONE YAJURVEDIC KATHAKA INDEPENDENT SVARITAcCANDRA BELOW
1CD9aVEDIC TONE YAJURVEDIC KATHAKA INDEPENDENT SVARITA SCHROEDER
1CDAaVEDIC TONE DOUBLE SVARITAcTRIPLE SVARITAcKATHAKA ANUDATTAcDOT BELOW
1CDEaVEDIC TONE TWO DOTS BELOWcTHREE DOTS BELOW
1CE0aVEDIC TONE RIGVEDIC KASHMIRI INDEPENDENT SVARITA
1CE1aVEDIC TONE ATHARVAVEDIC INDEPENDENT SVARITAbSIGN VISARGA SVARITAdUDATTA
1CE4aVEDIC SIGN REVERSED VISARGA UDATTAcVISARGA ANUDATTA
1CE6aVEDIC SIGN REVERSED VISARGA ANUDATTAcVISARGA UDATTA WITH TAIL
1CE8aVEDIC SIGN VISARGA ANUDATTA WITH TAILcANUSVARA ANTARGOMUKHAdBAHIRGOMUKHA
1CEBaVEDIC SIGN ANUSVARA VAMAGOMUKHAe WITH TAILcTIRYAKcHEXIFORM LONG ANUSVARA
1CEFaVEDIC SIGN LONG ANUSVARAcRTHANG LONG ANUSVARAcANUSVARA UBHAYATO MUKHA
1CF2aVEDIC SIGN ARDHAVISARGAcROTATED ARDHAVISARGAbTONE CANDRA ABOVE
1CF5aVEDIC SIGN JIHVAMULIYAcUPADHMANIYAcATIKRAMAbTONE RING ABOVE
1CF9aVEDIC TONE DOUBLE RING ABOVEbSIGN DOUBLE ANUSVARA ANTARGOMUKHA
1D00aLATIN LETTER SMALL CAPITAL AfEbSMALL LETTER TURNED AE
1D03aLATIN LETTER SMALL CAPITAL BARRED BeCeDeETHeEbSMALL LETTER TURNED OPEN E
1D09aLATIN SMALL LETTER TURNED IbLETTER SMALL CAPITAL JeKeL WITH STROKEeM
1D0EaLATIN LETTER SMALL CAPITAL REVERSED NeOfPEN ObSMALL LETTER SIDEWAYS O
1D12aLATIN SMALL LETTER SIDEWAYS OPEN OeO WITH STROKEdTURNED OE
1D15aLATIN LETTER SMALL CAPITAL OUbSMALL LETTER TOP HALF OdBOTTOM HALF O
1D18aLATIN LETTER SMALL CAPITAL PeREVERSED ReTURNED ReTeU
1D1DaLATIN SMALL LETTER SIDEWAYS UeDIAERESIZED UeTURNED M
1D20aLATIN LETTER SMALL CAPITAL VeWeZeEZHcVOICED LARYNGEAL SPIRANTcAIN
1D26aGREEK LETTER SMALL CAPITAL GAMMAeLAMDAePIeRHOePSI
1D2BaCYRILLIC LETTER SMALL CAPITAL ELaMODIFIER LETTER CAPITAL AeEdBeARRED BdD
1D31aMODIFIER LETTER CAPITAL EdREVERSED EdGdHdIdJdKdLdMdNdREVERSED NdOeUdPdRdT
1D41aMODIFIER LETTER CAPITAL UdWcSMALL AdTURNED AdALPHAdTURNED AEdBdDdEdSCHWA
1D4BaMODIFIER LETTER SMALL OPEN EdTURNED OPEN EdGdTURNED IdKdMdENGdOePEN O
1D54aMODIFIER LETTER SMALL TOP HALF OdBOTTOM HALF OdPdTdUdSIDEWAYS UdTURNED M
1D5BaMODIFIER LETTER SMALL VdAINdBETAdGREEK GAMMAdDELTAdGREEK PHIdCHI
1D62aLATIN SUBSCRIPT SMALL LETTER IeReUeVaGREEK SUBSCRIPT SMALL LETTER BETA
1D67aGREEK SUBSCRIPT SMALL LETTER GAMMAeRHOePHIeCHIaLATIN SMALL LETTER UE
1D6CaLATIN SMALL LETTER B WITH MIDDLE TILDEdD WITH MIDDLE TILDE
1D6EaLATIN SMALL LETTER F WITH MIDDLE TILDEdM WITH MIDDLE TILDE
1D70aLATIN SMALL LETTER N WITH MIDDLE TILDEdP WITH MIDDLE TILDE
1D72aLATIN SMALL LETTER R WITH MIDDLE TILDEfFISHHOOK AND MIDDLE TILDE
1D74aLATIN SMALL LETTER S WITH MIDDLE TILDEdT WITH MIDDLE TILDE
1D76aLATIN SMALL LETTER Z WITH MIDDLE TILDEdTURNED G
1D78aMODIFIER LETTER CYRILLIC ENaLATIN SMALL LETTER INSULAR G
1D7AaLATIN SMALL LETTER TH WITH STRIKETHROUGHcCAPITAL LETTER I WITH STROKE
1D7CaLATIN SMALL LETTER IOTA WITH STROKEdP WITH STROKE
1D7EaLATIN SMALL CAPITAL LETTER U WITH STROKEcLETTER UPSILON WITH STROKE
1D80aLATIN SMALL LETTER B WITH PALATAL HOOKdD WITH PALATAL HOOK
1D82aLATIN SMALL LETTER F WITH PALATAL HOOKdG WITH PALATAL HOOK
1D84aLATIN SMALL LETTER K WITH PALATAL HOOKdL WITH PALATAL HOOK
1D86aLATIN SMALL LETTER M WITH PALATAL HOOKdN WITH PALATAL HOOK
1D88aLATIN SMALL LETTER P WITH PALATAL HOOKdR WITH PALATAL HOOK
1D8AaLATIN SMALL LETTER S WITH PALATAL HOOKdESH WITH PALATAL HOOK
1D8CaLATIN SMALL LETTER V WITH PALATAL HOOKdX WITH PALATAL HOOK
1D8EaLATIN SMALL LETTER Z WITH PALATAL HOOKdA WITH RETROFLEX HOOK
1D90aLATIN SMALL LETTER ALPHA WITH RETROFLEX HOOKdD WITH HOOK AND TAIL
1D92aLATIN SMALL LETTER E WITH RETROFLEX HOOKdOPEN E WITH RETROFLEX HOOK
1D94aLATIN SMALL LETTER REVERSED OPEN E WITH RETROFLEX HOOK
1D95aLATIN SMALL LETTER SCHWA WITH RETROFLEX HOOKdI WITH RETROFLEX HOOK
1D97aLATIN SMALL LETTER OPEN O WITH RETROFLEX HOOKdESH WITH RETROFLEX HOOK
1D99aLATIN SMALL LETTER U WITH RETROFLEX HOOKdEZH WITH RETROFLEX HOOK
1D9BaMODIFIER LETTER SMALL TURNED ALPHAdCe WITH CURLdETHdREVERSED OPEN EdF
1DA1aMODIFIER LETTER SMALL DOTLESS J WITH STROKEdSCRIPT GdTURNED H
1DA4aMODIFIER LETTER SMALL I WITH STROKEdIOTAdCAPITAL If WITH STROKE
1DA8aMODIFIER LETTER SMALL J WITH CROSSED-TAILdL WITH RETROFLEX HOOK
1DAAaMODIFIER LETTER SMALL L WITH PALATAL HOOKdCAPITAL LdM WITH HOOK
1DADaMODIFIER LETTER SMALL TURNED M WITH LONG LEGdN WITH LEFT HOOK
1DAFaMODIFIER LETTER SMALL N WITH RETROFLEX HOOKdCAPITAL NdBARRED OdPHI
1DB3aMODIFIER LETTER SMALL S WITH HOOKdESHdT WITH PALATAL HOOKdU BARdUPSILON
1DB8aMODIFIER LETTER SMALL CAPITAL UdV WITH HOOKdTURNED VdZ
1DBCaMODIFIER LETTER SMALL Z WITH RETROFLEX HOOKfCURLdEZHdTHETA
1DC0aCOMBINING DOTTED GRAVE ACCENTcACUTE ACCENTbSNAKE BELOWbSUSPENSION MARK
1DC4aCOMBINING MACRON-ACUTEbGRAVE-MACRONbMACRON-GRAVEbACUTE-MACRON
1DC8aCOMBINING GRAVE-ACUTE-GRAVEbACUTE-GRAVE-ACUTEbLATIN SMALL LETTER R BELOW
1DCBaCOMBINING BREVE-MACRONbMACRON-BREVEbDOUBLE CIRCUMFLEX ABOVEbOGONEK ABOVE
1DCFaCOMBINING ZIGZAG BELOWbIS BELOWbUR ABOVEbUS ABOVE
1DD3aCOMBINING LATIN SMALL LETTER FLATTENED OPEN A ABOVEeAEeAOeAVeC CEDILLA
1DD8aCOMBINING LATIN SMALL LETTER INSULAR DeETHeGcLETTER SMALL CAPITAL G
1DDCaCOMBINING LATIN SMALL LETTER KeLcLETTER SMALL CAPITAL LfMcSMALL LETTER N
1DE1aCOMBINING LATIN LETTER SMALL CAPITAL NfRcSMALL LETTER R ROTUNDAeSeLONG S
1DE6aCOMBINING LATIN SMALL LETTER ZeALPHAeBfETAeSCHWAeF
1DECaCOMBINING LATIN SMALL LETTER L WITH DOUBLE MIDDLE TILDE
1DEDaCOMBINING LATIN SMALL LETTER O WITH LIGHT CENTRALIZATION STROKEePeESH
1DF0aCOMBINING LATIN SMALL LETTER U WITH LIGHT CENTRALIZATION STROKEeW
1DF2aCOMBINING LATIN SMALL LETTER A WITH DIAERESISeO WITH DIAERESIS
1DF4aCOMBINING LATIN SMALL LETTER U WITH DIAERESISbUP TACK ABOVE
1DF6aCOMBINING KAVYKA ABOVE RIGHTdLEFTbDOT ABOVE LEFT
1DF9aCOMBINING WIDE INVERTED BRIDGE BELOWbDOT BELOW LEFTbDELETION MARK
1DFCaCOMBINING DOUBLE INVERTED BREVE BELOWbALMOST EQUAL TO BELOW
1DFEaCOMBINING LEFT ARROWHEAD ABOVEbRIGHT ARROWHEAD AND DOWN ARROWHEAD BELOW
1E00aLATIN CAPITAL LETTER A WITH RING BELOWbSMALL LETTER A WITH RING BELOW
1E02aLATIN CAPITAL LETTER B WITH DOT ABOVEbSMALL LETTER B WITH DOT ABOVE
1E04aLATIN CAPITAL LETTER B WITH DOT BELOWbSMALL LETTER B WITH DOT BELOW
1E06aLATIN CAPITAL LETTER B WITH LINE BELOWbSMALL LETTER B WITH LINE BELOW
1E08aLATIN CAPITAL LETTER C WITH CEDILLA AND ACUTE
1E09aLATIN SMALL LETTER C WITH CEDILLA AND ACUTE
1E0AaLATIN CAPITAL LETTER D WITH DOT ABOVEbSMALL LETTER D WITH DOT ABOVE
1E0CaLATIN CAPITAL LETTER D WITH DOT BELOWbSMALL LETTER D WITH DOT BELOW
1E0EaLATIN CAPITAL LETTER D WITH LINE BELOWbSMALL LETTER D WITH LINE BELOW
1E10aLATIN CAPITAL LETTER D WITH CEDILLAbSMALL LETTER D WITH CEDILLA
1E12aLATIN CAPITAL LETTER D WITH CIRCUMFLEX BELOW
1E13aLATIN SMALL LETTER D WITH CIRCUMFLEX BELOW
1E14aLATIN CAPITAL LETTER E WITH MACRON AND GRAVE
1E15aLATIN SMALL LETTER E WITH MACRON AND GRAVE
1E16aLATIN CAPITAL LETTER E WITH MACRON AND ACUTE
1E17aLATIN SMALL LETTER E WITH MACRON AND ACUTE
1E18aLATIN CAPITAL LETTER E WITH CIRCUMFLEX BELOW
1E19aLATIN SMALL LETTER E WITH CIRCUMFLEX BELOW
1E1AaLATIN CAPITAL LETTER E WITH TILDE BELOWbSMALL LETTER E WITH TILDE BELOW
1E1CaLATIN CAPITAL LETTER E WITH CEDILLA AND BREVE
1E1DaLATIN SMALL LETTER E WITH CEDILLA AND BREVE
1E1EaLATIN CAPITAL LETTER F WITH DOT ABOVEbSMALL LETTER F WITH DOT ABOVE
1E20aLATIN CAPITAL LETTER G WITH MACRONbSMALL LETTER G WITH MACRON
1E22aLATIN CAPITAL LETTER H WITH DOT ABOVEbSMALL LETTER H WITH DOT ABOVE
1E24aLATIN CAPITAL LETTER H WITH DOT BELOWbSMALL LETTER H WITH DOT BELOW
1E26aLATIN CAPITAL LETTER H WITH DIAERESISbSMALL LETTER H WITH DIAERESIS
1E28aLATIN CAPITAL LETTER H WITH CEDILLAbSMALL LETTER H WITH CEDILLA
1E2AaLATIN CAPITAL LETTER H WITH BREVE BELOWbSMALL LETTER H WITH BREVE BELOW
1E2CaLATIN CAPITAL LETTER I WITH TILDE BELOWbSMALL LETTER I WITH TILDE BELOW
1E2EaLATIN CAPITAL LETTER I WITH DIAERESIS AND ACUTE
1E2FaLATIN SMALL LETTER I WITH DIAERESIS AND ACUTEbCAPITAL LETTER K WITH ACUTE
1E31aLATIN SMALL LETTER K WITH ACUTEbCAPITAL LETTER K WITH DOT BELOW
1E33aLATIN SMALL LETTER K WITH DOT BELOWbCAPITAL LETTER K WITH LINE BELOW
1E35aLATIN SMALL LETTER K WITH LINE BELOWbCAPITAL LETTER L WITH DOT BELOW
1E37aLATIN SMALL LETTER L WITH DOT BELOW
1E38aLATIN CAPITAL LETTER L WITH DOT BELOW AND MACRON
1E39aLATIN SMALL LETTER L WITH DOT BELOW AND MACRON
1E3AaLATIN CAPITAL LETTER L WITH LINE BELOWbSMALL LETTER L WITH LINE BELOW
1E3CaLATIN CAPITAL LETTER L WITH CIRCUMFLEX BELOW
1E3DaLATIN SMALL LETTER L WITH CIRCUMFLEX BELOWbCAPITAL LETTER M WITH ACUTE
1E3FaLATIN SMALL LETTER M WITH ACUTEbCAPITAL LETTER M WITH DOT ABOVE
1E41aLATIN SMALL LETTER M WITH DOT ABOVEbCAPITAL LETTER M WITH DOT BELOW
1E43aLATIN SMALL LETTER M WITH DOT BELOWbCAPITAL LETTER N WITH DOT ABOVE
1E45aLATIN SMALL LETTER N WITH DOT ABOVEbCAPITAL LETTER N WITH DOT BELOW
1E47aLATIN SMALL LETTER N WITH DOT BELOWbCAPITAL LETTER N WITH LINE BELOW
1E49aLATIN SMALL LETTER N WITH LINE BELOW
1E4AaLATIN CAPITAL LETTER N WITH CIRCUMFLEX BELOW
1E4BaLATIN SMALL LETTER N WITH CIRCUMFLEX BELOW
1E4CaLATIN CAPITAL LETTER O WITH TILDE AND ACUTE
1E4DaLATIN SMALL LETTER O WITH TILDE AND ACUTE
1E4EaLATIN CAPITAL LETTER O WITH TILDE AND DIAERESIS
1E4FaLATIN SMALL LETTER O WITH TILDE AND DIAERESIS
1E50aLATIN CAPITAL LETTER O WITH MACRON AND GRAVE
1E51aLATIN SMALL LETTER O WITH MACRON AND GRAVE
1E52aLATIN CAPITAL LETTER O WITH MACRON AND ACUTE
1E53aLATIN SMALL LETTER O WITH MACRON AND ACUTEbCAPITAL LETTER P WITH ACUTE
1E55aLATIN SMALL LETTER P WITH ACUTEbCAPITAL LETTER P WITH DOT ABOVE
1E57aLATIN SMALL LETTER P WITH DOT ABOVEbCAPITAL LETTER R WITH DOT ABOVE
1E59aLATIN SMALL LETTER R WITH DOT ABOVEbCAPITAL LETTER R WITH DOT BELOW
1E5BaLATIN SMALL LETTER R WITH DOT BELOW
1E5CaLATIN CAPITAL LETTER R WITH DOT BELOW AND MACRON
1E5DaLATIN SMALL LETTER R WITH DOT BELOW AND MACRON
1E5EaLATIN CAPITAL LETTER R WITH LINE BELOWbSMALL LETTER R WITH LINE BELOW
1E60aLATIN CAPITAL LETTER S WITH DOT ABOVEbSMALL LETTER S WITH DOT ABOVE
1E62aLATIN CAPITAL LETTER S WITH DOT BELOWbSMALL LETTER S WITH DOT BELOW
1E64aLATIN CAPITAL LETTER S WITH ACUTE AND DOT ABOVE
1E65aLATIN SMALL LETTER S WITH ACUTE AND DOT ABOVE
1E66aLATIN CAPITAL LETTER S WITH CARON AND DOT ABOVE
1E67aLATIN SMALL LETTER S WITH CARON AND DOT ABOVE
1E68aLATIN CAPITAL LETTER S WITH DOT BELOW AND DOT ABOVE
1E69aLATIN SMALL LETTER S WITH DOT BELOW AND DOT ABOVE
1E6AaLATIN CAPITAL LETTER T WITH DOT ABOVEbSMALL LETTER T WITH DOT ABOVE
1E6CaLATIN CAPITAL LETTER T WITH DOT BELOWbSMALL LETTER T WITH DOT BELOW
1E6EaLATIN CAPITAL LETTER T WITH LINE BELOWbSMALL LETTER T WITH LINE BELOW
1E70aLATIN CAPITAL LETTER T WITH CIRCUMFLEX BELOW
1E71aLATIN SMALL LETTER T WITH CIRCUMFLEX BELOW
1E72aLATIN CAPITAL LETTER U WITH DIAERESIS BELOW
1E73aLATIN SMALL LETTER U WITH DIAERESIS BELOW
1E74aLATIN CAPITAL LETTER U WITH TILDE BELOWbSMALL LETTER U WITH TILDE BELOW
1E76aLATIN CAPITAL LETTER U WITH CIRCUMFLEX BELOW
1E77aLATIN SMALL LETTER U WITH CIRCUMFLEX BELOW
1E78aLATIN CAPITAL LETTER U WITH TILDE AND ACUTE
1E79aLATIN SMALL LETTER U WITH TILDE AND ACUTE
1E7AaLATIN CAPITAL LETTER U WITH MACRON AND DIAERESIS
1E7BaLATIN SMALL LETTER U WITH MACRON AND DIAERESIS
1E7CaLATIN CAPITAL LETTER V WITH TILDEbSMALL LETTER V WITH TILDE
1E7EaLATIN CAPITAL LETTER V WITH DOT BELOWbSMALL LETTER V WITH DOT BELOW
1E80aLATIN CAPITAL LETTER W WITH GRAVEbSMALL LETTER W WITH GRAVE
1E82aLATIN CAPITAL LETTER W WITH ACUTEbSMALL LETTER W WITH ACUTE
1E84aLATIN CAPITAL LETTER W WITH DIAERESISbSMALL LETTER W WITH DIAERESIS
1E86aLATIN CAPITAL LETTER W WITH DOT ABOVEbSMALL LETTER W WITH DOT ABOVE
1E88aLATIN CAPITAL LETTER W WITH DOT BELOWbSMALL LETTER W WITH DOT BELOW
1E8AaLATIN CAPITAL LETTER X WITH DOT ABOVEbSMALL LETTER X WITH DOT ABOVE
1E8CaLATIN CAPITAL LETTER X WITH DIAERESISbSMALL LETTER X WITH DIAERESIS
1E8EaLATIN CAPITAL LETTER Y WITH DOT ABOVEbSMALL LETTER Y WITH DOT ABOVE
1E90aLATIN CAPITAL LETTER Z WITH CIRCUMFLEXbSMALL LETTER Z WITH CIRCUMFLEX
1E92aLATIN CAPITAL LETTER Z WITH DOT BELOWbSMALL LETTER Z WITH DOT BELOW
1E94aLATIN CAPITAL LETTER Z WITH LINE BELOWbSMALL LETTER Z WITH LINE BELOW
1E96aLATIN SMALL LETTER H WITH LINE BELOWdT WITH DIAERESISdW WITH RING ABOVE
1E99aLATIN SMALL LETTER Y WITH RING ABOVEdA WITH RIGHT HALF RING
1E9BaLATIN SMALL LETTER LONG S WITH DOT ABOVEgDIAGONAL STROKEgHIGH STROKE
1E9EaLATIN CAPITAL LETTER SHARP SbSMALL LETTER DELTA
1EA0aLATIN CAPITAL LETTER A WITH DOT BELOWbSMALL LETTER A WITH DOT BELOW
1EA2aLATIN CAPITAL LETTER A WITH HOOK ABOVEbSMALL LETTER A WITH HOOK ABOVE
1EA4aLATIN CAPITAL LETTER A WITH CIRCUMFLEX AND ACUTE
1EA5aLATIN SMALL LETTER A WITH CIRCUMFLEX AND ACUTE
1EA6aLATIN CAPITAL LETTER A WITH CIRCUMFLEX AND GRAVE
1EA7aLATIN SMALL LETTER A WITH CIRCUMFLEX AND GRAVE
1EA8aLATIN CAPITAL LETTER A WITH CIRCUMFLEX AND HOOK ABOVE
1EA9aLATIN SMALL LETTER A WITH CIRCUMFLEX AND HOOK ABOVE
1EAAaLATIN CAPITAL LETTER A WITH CIRCUMFLEX AND TILDE
1EABaLATIN SMALL LETTER A WITH CIRCUMFLEX AND TILDE
1EACaLATIN CAPITAL LETTER A WITH CIRCUMFLEX AND DOT BELOW
1EADaLATIN SMALL LETTER A WITH CIRCUMFLEX AND DOT BELOW
1EAEaLATIN CAPITAL LETTER A WITH BREVE AND ACUTE
1EAFaLATIN SMALL LETTER A WITH BREVE AND ACUTE
1EB0aLATIN CAPITAL LETTER A WITH BREVE AND GRAVE
1EB1aLATIN SMALL LETTER A WITH BREVE AND GRAVE
1EB2aLATIN CAPITAL LETTER A WITH BREVE AND HOOK ABOVE
1EB3aLATIN SMALL LETTER A WITH BREVE AND HOOK ABOVE
1EB4aLATIN CAPITAL LETTER A WITH BREVE AND TILDE
1EB5aLATIN SMALL LETTER A WITH BREVE AND TILDE
1EB6aLATIN CAPITAL LETTER A WITH BREVE AND DOT BELOW
1EB7aLATIN SMALL LETTER A WITH BREVE AND DOT BELOW
1EB8aLATIN CAPITAL LETTER E WITH DOT BELOWbSMALL LETTER E WITH DOT BELOW
1EBAaLATIN CAPITAL LETTER E WITH HOOK ABOVEbSMALL LETTER E WITH HOOK ABOVE
1EBCaLATIN CAPITAL LETTER E WITH TILDEbSMALL LETTER E WITH TILDE
1EBEaLATIN CAPITAL LETTER E WITH CIRCUMFLEX AND ACUTE
1EBFaLATIN SMALL LETTER E WITH CIRCUMFLEX AND ACUTE
1EC0aLATIN CAPITAL LETTER E WITH CIRCUMFLEX AND GRAVE
1EC1aLATIN SMALL LETTER E WITH CIRCUMFLEX AND GRAVE
1EC2aLATIN CAPITAL LETTER E WITH CIRCUMFLEX AND HOOK ABOVE
1EC3aLATIN SMALL LETTER E WITH CIRCUMFLEX AND HOOK ABOVE
1EC4aLATIN CAPITAL LETTER E WITH CIRCUMFLEX AND TILDE
1EC5aLATIN SMALL LETTER E WITH CIRCUMFLEX AND TILDE
1EC6aLATIN CAPITAL LETTER E WITH CIRCUMFLEX AND DOT BELOW
1EC7aLATIN SMALL LETTER E WITH CIRCUMFLEX AND DOT BELOW
1EC8aLATIN CAPITAL LETTER I WITH HOOK ABOVEbSMALL LETTER I WITH HOOK ABOVE
1ECAaLATIN CAPITAL LETTER I WITH DOT BELOWbSMALL LETTER I WITH DOT BELOW
1ECCaLATIN CAPITAL LETTER O WITH DOT BELOWbSMALL LETTER O WITH DOT BELOW
1ECEaLATIN CAPITAL LETTER O WITH HOOK ABOVEbSMALL LETTER O WITH HOOK ABOVE
1ED0aLATIN CAPITAL LETTER O WITH CIRCUMFLEX AND ACUTE
1ED1aLATIN SMALL LETTER O WITH CIRCUMFLEX AND ACUTE
1ED2aLATIN CAPITAL LETTER O WITH CIRCUMFLEX AND GRAVE
1ED3aLATIN SMALL LETTER O WITH CIRCUMFLEX AND GRAVE
1ED4aLATIN CAPITAL LETTER O WITH CIRCUMFLEX AND HOOK ABOVE
1ED5aLATIN SMALL LETTER O WITH CIRCUMFLEX AND HOOK ABOVE
1ED6aLATIN CAPITAL LETTER O WITH CIRCUMFLEX AND TILDE
1ED7aLATIN SMALL LETTER O WITH CIRCUMFLEX AND TILDE
1ED8aLATIN CAPITAL LETTER O WITH CIRCUMFLEX AND DOT BELOW
1ED9aLATIN SMALL LETTER O WITH CIRCUMFLEX AND DOT BELOW
1EDAaLATIN CAPITAL LETTER O WITH HORN AND ACUTE
1EDBaLATIN SMALL LETTER O WITH HORN AND ACUTE
1EDCaLATIN CAPITAL LETTER O WITH HORN AND GRAVE
1EDDaLATIN SMALL LETTER O WITH HORN AND GRAVE
1EDEaLATIN CAPITAL LETTER O WITH HORN AND HOOK ABOVE
1EDFaLATIN SMALL LETTER O WITH HORN AND HOOK ABOVE
1EE0aLATIN CAPITAL LETTER O WITH HORN AND TILDE
1EE1aLATIN SMALL LETTER O WITH HORN AND TILDE
1EE2aLATIN CAPITAL LETTER O WITH HORN AND DOT BELOW
1EE3aLATIN SMALL LETTER O WITH HORN AND DOT BELOW
1EE4aLATIN CAPITAL LETTER U WITH DOT BELOWbSMALL LETTER U WITH DOT BELOW
1EE6aLATIN CAPITAL LETTER U WITH HOOK ABOVEbSMALL LETTER U WITH HOOK ABOVE
1EE8aLATIN CAPITAL LETTER U WITH HORN AND ACUTE
1EE9aLATIN SMALL LETTER U WITH HORN AND ACUTE
1EEAaLATIN CAPITAL LETTER U WITH HORN AND GRAVE
1EEBaLATIN SMALL LETTER U WITH HORN AND GRAVE
1EECaLATIN CAPITAL LETTER U WITH HORN AND HOOK ABOVE
1EEDaLATIN SMALL LETTER U WITH HORN AND HOOK ABOVE
1EEEaLATIN CAPITAL LETTER U WITH HORN AND TILDE
1EEFaLATIN SMALL LETTER U WITH HORN AND TILDE
1EF0aLATIN CAPITAL LETTER U WITH HORN AND DOT BELOW
1EF1aLATIN SMALL LETTER U WITH HORN AND DOT BELOWbCAPITAL LETTER Y WITH GRAVE
1EF3aLATIN SMALL LETTER Y WITH GRAVEbCAPITAL LETTER Y WITH DOT BELOW
1EF5aLATIN SMALL LETTER Y WITH DOT BELOWbCAPITAL LETTER Y WITH HOOK ABOVE
1EF7aLATIN SMALL LETTER Y WITH HOOK ABOVEbCAPITAL LETTER Y WITH TILDE
1EF9aLATIN SMALL LETTER Y WITH TILDEbCAPITAL LETTER MIDDLE-WELSH LL
1EFBaLATIN SMALL LETTER MIDDLE-WELSH LLbCAPITAL LETTER MIDDLE-WELSH V
1EFDaLATIN SMALL LETTER MIDDLE-WELSH VbCAPITAL LETTER Y WITH LOOP
1EFFaLATIN SMALL LETTER Y WITH LOOPaGREEK SMALL LETTER ALPHA WITH PSILIfDASIA
1F02aGREEK SMALL LETTER ALPHA WITH PSILI AND VARIAfDASIA AND VARIA
1F04aGREEK SMALL LETTER ALPHA WITH PSILI AND OXIAfDASIA AND OXIA
1F06aGREEK SMALL LETTER ALPHA WITH PSILI AND PERISPOMENIfDASIA AND PERISPOMENI
1F08aGREEK CAPITAL LETTER ALPHA WITH PSILIfDASIAfPSILI AND VARIA
1F0BaGREEK CAPITAL LETTER ALPHA WITH DASIA AND VARIAfPSILI AND OXIA
1F0DaGREEK CAPITAL LETTER ALPHA WITH DASIA AND OXIAfPSILI AND PERISPOMENI
1F0FaGREEK CAPITAL LETTER ALPHA WITH DASIA AND PERISPOMENI
1F10aGREEK SMALL LETTER EPSILON WITH PSILIfDASIAfPSILI AND VARIA
1F13aGREEK SMALL LETTER EPSILON WITH DASIA AND VARIAfPSILI AND OXIA
1F15aGREEK SMALL LETTER EPSILON WITH DASIA AND OXIA
1F18aGREEK CAPITAL LETTER EPSILON WITH PSILIfDASIAfPSILI AND VARIA
1F1BaGREEK CAPITAL LETTER EPSILON WITH DASIA AND VARIAfPSILI AND OXIA
1F1DaGREEK CAPITAL LETTER EPSILON WITH DASIA AND OXIA
1F20aGREEK SMALL LETTER ETA WITH PSILIfDASIAfPSILI AND VARIAfDASIA AND VARIA
1F24aGREEK SMALL LETTER ETA WITH PSILI AND OXIAfDASIA AND OXIA
1F26aGREEK SMALL LETTER ETA WITH PSILI AND PERISPOMENIfDASIA AND PERISPOMENI
1F28aGREEK CAPITAL LETTER ETA WITH PSILIfDASIAfPSILI AND VARIAfDASIA AND VARIA
1F2CaGREEK CAPITAL LETTER ETA WITH PSILI AND OXIAfDASIA AND OXIA
1F2EaGREEK CAPITAL LETTER ETA WITH PSILI AND PERISPOMENIfDASIA AND PERISPOMENI
1F30aGREEK SMALL LETTER IOTA WITH PSILIfDASIAfPSILI AND VARIAfDASIA AND VARIA
1F34aGREEK SMALL LETTER IOTA WITH PSILI AND OXIAfDASIA AND OXIA
1F36aGREEK SMALL LETTER IOTA WITH PSILI AND PERISPOMENIfDASIA AND PERISPOMENI
1F38aGREEK CAPITAL LETTER IOTA WITH PSILIfDASIAfPSILI AND VARIA
1F3BaGREEK CAPITAL LETTER IOTA WITH DASIA AND VARIAfPSILI AND OXIA
1F3DaGREEK CAPITAL LETTER IOTA WITH DASIA AND OXIAfPSILI AND PERISPOMENI
1F3FaGREEK CAPITAL LETTER IOTA WITH DASIA AND PERISPOMENI
1F40aGREEK SMALL LETTER OMICRON WITH PSILIfDASIAfPSILI AND VARIA
1F43aGREEK SMALL LETTER OMICRON WITH DASIA AND VARIAfPSILI AND OXIA
1F45aGREEK SMALL LETTER OMICRON WITH DASIA AND OXIA
1F48aGREEK CAPITAL LETTER OMICRON WITH PSILIfDASIAfPSILI AND VARIA
1F4BaGREEK CAPITAL LETTER OMICRON WITH DASIA AND VARIAfPSILI AND OXIA
1F4DaGREEK CAPITAL LETTER OMICRON WITH DASIA AND OXIA
1F50aGREEK SMALL LETTER UPSILON WITH PSILIfDASIAfPSILI AND VARIA
1F53aGREEK SMALL LETTER UPSILON WITH DASIA AND VARIAfPSILI AND OXIA
1F55aGREEK SMALL LETTER UPSILON WITH DASIA AND OXIAfPSILI AND PERISPOMENI
1F57aGREEK SMALL LETTER UPSILON WITH DASIA AND PERISPOMENI
1F59aGREEK CAPITAL LETTER UPSILON WITH DASIA
1F5BaGREEK CAPITAL LETTER UPSILON WITH DASIA AND VARIA
1F5DaGREEK CAPITAL LETTER UPSILON WITH DASIA AND OXIA
1F5FaGREEK CAPITAL LETTER UPSILON WITH DASIA AND PERISPOMENI
1F60aGREEK SMALL LETTER OMEGA WITH PSILIfDASIAfPSILI AND VARIAfDASIA AND VARIA
1F64aGREEK SMALL LETTER OMEGA WITH PSILI AND OXIAfDASIA AND OXIA
1F66aGREEK SMALL LETTER OMEGA WITH PSILI AND PERISPOMENIfDASIA AND PERISPOMENI
1F68aGREEK CAPITAL LETTER OMEGA WITH PSILIfDASIAfPSILI AND VARIA
1F6BaGREEK CAPITAL LETTER OMEGA WITH DASIA AND VARIAfPSILI AND OXIA
1F6DaGREEK CAPITAL LETTER OMEGA WITH DASIA AND OXIAfPSILI AND PERISPOMENI
1F6FaGREEK CAPITAL LETTER OMEGA WITH DASIA AND PERISPOMENI
1F70aGREEK SMALL LETTER ALPHA WITH VARIAfOXIAdEPSILON WITH VARIAfOXIA
1F74aGREEK SMALL LETTER ETA WITH VARIAfOXIAdIOTA WITH VARIAfOXIA
1F78aGREEK SMALL LETTER OMICRON WITH VARIAfOXIAdUPSILON WITH VARIAfOXIA
1F7CaGREEK SMALL LETTER OMEGA WITH VARIAfOXIA
1F80aGREEK SMALL LETTER ALPHA WITH PSILI AND YPOGEGRAMMENI
1F81aGREEK SMALL LETTER ALPHA WITH DASIA AND YPOGEGRAMMENI
1F82aGREEK SMALL LETTER ALPHA WITH PSILI AND VARIA AND YPOGEGRAMMENI
1F83aGREEK SMALL LETTER ALPHA WITH DASIA AND VARIA AND YPOGEGRAMMENI
1F84aGREEK SMALL LETTER ALPHA WITH PSILI AND OXIA AND YPOGEGRAMMENI
1F85aGREEK SMALL LETTER ALPHA WITH DASIA AND OXIA AND YPOGEGRAMMENI
1F86aGREEK SMALL LETTER ALPHA WITH PSILI AND PERISPOMENI AND YPOGEGRAMMENI
1F87aGREEK SMALL LETTER ALPHA WITH DASIA AND PERISPOMENI AND YPOGEGRAMMENI
1F88aGREEK CAPITAL LETTER ALPHA WITH PSILI AND PROSGEGRAMMENI
1F89aGREEK CAPITAL LETTER ALPHA WITH DASIA AND PROSGEGRAMMENI
1F8AaGREEK CAPITAL LETTER ALPHA WITH PSILI AND VARIA AND PROSGEGRAMMENI
1F8BaGREEK CAPITAL LETTER ALPHA WITH DASIA AND VARIA AND PROSGEGRAMMENI
1F8CaGREEK CAPITAL LETTER ALPHA WITH PSILI AND OXIA AND PROSGEGRAMMENI
1F8DaGREEK CAPITAL LETTER ALPHA WITH DASIA AND OXIA AND PROSGEGRAMMENI
1F8EaGREEK CAPITAL LETTER ALPHA WITH PSILI AND PERISPOMENI AND PROSGEGRAMMENI
1F8FaGREEK CAPITAL LETTER ALPHA WITH DASIA AND PERISPOMENI AND PROSGEGRAMMENI
1F90aGREEK SMALL LETTER ETA WITH PSILI AND YPOGEGRAMMENI
1F91aGREEK SMALL LETTER ETA WITH DASIA AND YPOGEGRAMMENI
1F92aGREEK SMALL LETTER ETA WITH PSILI AND VARIA AND YPOGEGRAMMENI
1F93aGREEK SMALL LETTER ETA WITH DASIA AND VARIA AND YPOGEGRAMMENI
1F94aGREEK SMALL LETTER ETA WITH PSILI AND OXIA AND YPOGEGRAMMENI
1F95aGREEK SMALL LETTER ETA WITH DASIA AND OXIA AND YPOGEGRAMMENI
1F96aGREEK SMALL LETTER ETA WITH PSILI AND PERISPOMENI AND YPOGEGRAMMENI
1F97aGREEK SMALL LETTER ETA WITH DASIA AND PERISPOMENI AND YPOGEGRAMMENI
1F98aGREEK CAPITAL LETTER ETA WITH PSILI AND PROSGEGRAMMENI
1F99aGREEK CAPITAL LETTER ETA WITH DASIA AND PROSGEGRAMMENI
1F9AaGREEK CAPITAL LETTER ETA WITH PSILI AND VARIA AND PROSGEGRAMMENI
1F9BaGREEK CAPITAL LETTER ETA WITH DASIA AND VARIA AND PROSGEGRAMMENI
1F9CaGREEK CAPITAL LETTER ETA WITH PSILI AND OXIA AND PROSGEGRAMMENI
1F9DaGREEK CAPITAL LETTER ETA WITH DASIA AND OXIA AND PROSGEGRAMMENI
1F9EaGREEK CAPITAL LETTER ETA WITH PSILI AND PERISPOMENI AND PROSGEGRAMMENI
1F9FaGREEK CAPITAL LETTER ETA WITH DASIA AND PERISPOMENI AND PROSGEGRAMMENI
1FA0aGREEK SMALL LETTER OMEGA WITH PSILI AND YPOGEGRAMMENI
1FA1aGREEK SMALL LETTER OMEGA WITH DASIA AND YPOGEGRAMMENI
1FA2aGREEK SMALL LETTER OMEGA WITH PSILI AND VARIA AND YPOGEGRAMMENI
1FA3aGREEK SMALL LETTER OMEGA WITH DASIA AND VARIA AND YPOGEGRAMMENI
1FA4aGREEK SMALL LETTER OMEGA WITH PSILI AND OXIA AND YPOGEGRAMMENI
1FA5aGREEK SMALL LETTER OMEGA WITH DASIA AND OXIA AND YPOGEGRAMMENI
1FA6aGREEK SMALL LETTER OMEGA WITH PSILI AND PERISPOMENI AND YPOGEGRAMMENI
1FA7aGREEK SMALL LETTER OMEGA WITH DASIA AND PERISPOMENI AND YPOGEGRAMMENI
1FA8aGREEK CAPITAL LETTER OMEGA WITH PSILI AND PROSGEGRAMMENI
1FA9aGREEK CAPITAL LETTER OMEGA WITH DASIA AND PROSGEGRAMMENI
1FAAaGREEK CAPITAL LETTER OMEGA WITH PSILI AND VARIA AND PROSGEGRAMMENI
1FABaGREEK CAPITAL LETTER OMEGA WITH DASIA AND VARIA AND PROSGEGRAMMENI
1FACaGREEK CAPITAL LETTER OMEGA WITH PSILI AND OXIA AND PROSGEGRAMMENI
1FADaGREEK CAPITAL LETTER OMEGA WITH DASIA AND OXIA AND PROSGEGRAMMENI
1FAEaGREEK CAPITAL LETTER OMEGA WITH PSILI AND PERISPOMENI AND PROSGEGRAMMENI
1FAFaGREEK CAPITAL LETTER OMEGA WITH DASIA AND PERISPOMENI AND PROSGEGRAMMENI
1FB0aGREEK SMALL LETTER ALPHA WITH VRACHYfMACRONfVARIA AND YPOGEGRAMMENI
1FB3aGREEK SMALL LETTER ALPHA WITH YPOGEGRAMMENIfOXIA AND YPOGEGRAMMENI
1FB6aGREEK SMALL LETTER ALPHA WITH PERISPOMENIg AND YPOGEGRAMMENI
1FB8aGREEK CAPITAL LETTER ALPHA WITH VRACHYfMACRONfVARIAfOXIAfPROSGEGRAMMENI
1FBDaGREEK KORONISbPROSGEGRAMMENIbPSILIbPERISPOMENIbDIALYTIKA AND PERISPOMENI
1FC2aGREEK SMALL LETTER ETA WITH VARIA AND YPOGEGRAMMENIfYPOGEGRAMMENI
1FC4aGREEK SMALL LETTER ETA WITH OXIA AND YPOGEGRAMMENI
1FC6aGREEK SMALL LETTER ETA WITH PERISPOMENIg AND YPOGEGRAMMENI
1FC8aGREEK CAPITAL LETTER EPSILON WITH VARIAfOXIAdETA WITH VARIAfOXIA
1FCCaGREEK CAPITAL LETTER ETA WITH PROSGEGRAMMENIbPSILI AND VARIAdOXIA
1FCFaGREEK PSILI AND PERISPOMENIbSMALL LETTER IOTA WITH VRACHYfMACRON
1FD2aGREEK SMALL LETTER IOTA WITH DIALYTIKA AND VARIAhOXIA
1FD6aGREEK SMALL LETTER IOTA WITH PERISPOMENIfDIALYTIKA AND PERISPOMENI
1FD8aGREEK CAPITAL LETTER IOTA WITH VRACHYfMACRONfVARIAfOXIA
1FDDaGREEK DASIA AND VARIAdOXIAdPERISPOMENIbSMALL LETTER UPSILON WITH VRACHY
1FE1aGREEK SMALL LETTER UPSILON WITH MACRONfDIALYTIKA AND VARIAhOXIA
1FE4aGREEK SMALL LETTER RHO WITH PSILIfDASIAdUPSILON WITH PERISPOMENI
1FE7aGREEK SMALL LETTER UPSILON WITH DIALYTIKA AND PERISPOMENI
1FE8aGREEK CAPITAL LETTER UPSILON WITH VRACHYfMACRONfVARIAfOXIAdRHO WITH DASIA
1FEDaGREEK DIALYTIKA AND VARIAdOXIAbVARIA
1FF2aGREEK SMALL LETTER OMEGA WITH VARIA AND YPOGEGRAMMENIfYPOGEGRAMMENI
1FF4aGREEK SMALL LETTER OMEGA WITH OXIA AND YPOGEGRAMMENI
1FF6aGREEK SMALL LETTER OMEGA WITH PERISPOMENIg AND YPOGEGRAMMENI
1FF8aGREEK CAPITAL LETTER OMICRON WITH VARIAfOXIAdOMEGA WITH VARIAfOXIA
1FFCaGREEK CAPITAL LETTER OMEGA WITH PROSGEGRAMMENIbOXIAbDASIA"

end Purity.Text.CharName
