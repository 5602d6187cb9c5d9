/-! The names of characters that begin with the letter L, as pages. -/

namespace Gloss.Text.CharName

/-- The page of the letter L. -/
def pageL : List String :=
  ["L B BAR SYMBOLaAB COATcELbCROSSE STICK AND BALLbDDERcY BEETLEbNGUAGE TAGbO CANCELLATION MARKd",
   "DIGIT EIGHTjFIVEkOURjNINEjONEjSEVENkIXjTHREEkWOjZEROdELLIPSISdHO MOgNOdKO LAdLETTER BOkCOkDOk",
   "FO FAYoONnSUNGnTAMkHO SUNGnTAMkKHMU GOpNYOmO SUNGoTAMlOkLOm LINGoOOTkMOkNGOlOlYOkOkPALI BHApC",
   "HApDDArHAqHApGHApJHApLLApNNAqYApTTArHAlHO SUNGoTAMlOkROkSANSKRIT SHAuSAlO SUNGnTAMkTHO SUNGoT",
   "AMlOkWOkYOdNIGGAHITAdSEMIVOWEL SIGN LOsNYOeIGN PALI VIRAMAdTONE MAI CATAWAmEKmTHOnIdVOWEL SIG",
   "N ApApIpMpYoEpIoIpIoMAI KANtONoOoUpUoYpYbRGE BLUE CIRCLEkDIAMONDkSQUAREgROWN CIRCLElSQUAREfCI",
   "RCLEfDOWN TACKfGREEN CIRCLElSQUAREfLEFT TRIANGLE OPERATORfONE DOT OVER TWO DOTS PUNCTUATIONjR",
   "ING OVER TWO RINGS PUNCTUATIONgRANGE CIRCLEmDIAMONDmSQUAREfPURPLE CIRCLEmSQUAREfRED CIRCLEjSQ",
   "UAREfTRIPLE VERTICAL BAR OPERATORgWO DOTS OVER ONE DOT PUNCTUATIONjRINGS OVER ONE RING PUNCTU",
   "ATIONfUP TACKfYELLOW CIRCLEmSQUAREeR THANk OR EQUAL TOcI SIGNbST QUARTER MOONq SYMBOLrWITH FA",
   "CEbTIN CAPITAL LETTER Av WITH ACUTEzbBREVEzg AND ACUTEzlDOT BELOWzlGRAVEzlHOOK ABOVEzlTILDEzb",
   "CARONzcIRCUMFLEXzl AND ACUTEzqDOT BELOWzqGRAVEzqHOOK ABOVEzqTILDEzbDIAERESISzk AND MACRONzcOT",
   " ABOVEzk AND MACRONzfBELOWzdUBLE GRAVEzbGRAVEzbHOOK ABOVEzbINVERTED BREVEzbMACRONzbOGONEKzbRI",
   "NG ABOVEzl AND ACUTEzgBELOWzbSTROKEzbTILDEvAvEw WITH ACUTEzcMACRONvFRICAN DvLPHAvNGLICANA WvO",
   "vUvVw WITH HORIZONTAL BARvYuBv WITH DOT ABOVEzfBELOWzbFLOURISHzbHOOKzbLINE BELOWzbSTROKEzbTOP",
   "BARvETAvROKEN LuCv WITH ACUTEzbBARzbCARONzcEDILLAzi AND ACUTEzcIRCUMFLEXzbDOT ABOVEzbHOOKzbPA",
   "LATAL HOOKzbSTROKEvHIvLOSED INSULAR GvONvUATRILLOzd WITH COMMAuDv WITH CARONzcEDILLAzcIRCUMFL",
   "EX BELOWzbDOT ABOVEzfBELOWzbHOOKzbLINE BELOWzbSHORT STROKE OVERLAYzcMALL LETTER Zzp WITH CARO",
   "NzcTROKEzbTOPBARvZw WITH CARONuEv WITH ACUTEzbBREVEzbCARONzcEDILLAzi AND BREVEzcIRCUMFLEXzl A",
   "ND ACUTEzqDOT BELOWzqGRAVEzqHOOK ABOVEzqTILDEzmBELOWzbDIAERESISzcOT ABOVEzfBELOWzdUBLE GRAVEz",
   "bGRAVEzbHOOK ABOVEzbINVERTED BREVEzbMACRONzh AND ACUTEzmGRAVEzbOGONEKzbSTROKEzbTILDEzg BELOWv",
   "GYPTOLOGICAL AINzjLEFvNGvSHvTwHvZHx REVERSEDyWITH CARONuFv WITH DOT ABOVEzbHOOKzbSTROKEuGv WI",
   "TH ACUTEzbBREVEzbCARONzcEDILLAzcIRCUMFLEXzbDOT ABOVEzbHOOKzbMACRONzbOBLIQUE STROKEzbSTROKEvAM",
   "MAvHAvLOTTAL AzcIzcSTOPzcUuHv WITH BREVE BELOWzbCARONzcEDILLAzcIRCUMFLEXzbDESCENDERzcIAERESIS",
   "zcOT ABOVEzfBELOWzbHOOKzbSTROKEvALF HvENGvWAIRuIv WITH ACUTEzbBREVEzbCARONzcIRCUMFLEXzbDIAERE",
   "SISzk AND ACUTEzcOT ABOVEzfBELOWzdUBLE GRAVEzbGRAVEzbHOOK ABOVEzbINVERTED BREVEzbMACRONzbOGON",
   "EKzbSTROKEzbTILDEzg BELOWvNSULAR DzcFzcGzcRzcSzcTvOTAvSuJv WITH CIRCUMFLEXzcROSSED-TAILzbSTRO",
   "KEuKv WITH ACUTEzbCARONzcEDILLAzbDESCENDERzcIAGONAL STROKEzcOT BELOWzbHOOKzbLINE BELOWzbOBLIQ",
   "UE STROKEzbSTROKEzh AND DIAGONAL STROKEuLv WITH ACUTEzbBARzcELTzbCARONzcEDILLAzcIRCUMFLEX BEL",
   "OWzbDOT BELOWzk AND MACRONzdUBLE BARzbHIGH STROKEzbLINE BELOWzbMIDDLE DOTziTILDEzbSMALL LETTE",
   "R JzcTROKEvJuMv WITH ACUTEzbDOT ABOVEzfBELOWzbHOOKvIDDLE SCOTS Sza-WELSH LLzhVuNv WITH ACUTEz",
   "bCARONzcEDILLAzcIRCUMFLEX BELOWzbDESCENDERzcOT ABOVEzfBELOWzbGRAVEzbLEFT HOOKzcINE BELOWzcONG",
   " RIGHT LEGzbOBLIQUE STROKEzbSMALL LETTER JzbTILDEvJuOv WITH ACUTEzbBREVEzbCARONzcIRCUMFLEXzl ",
   "AND ACUTEzqDOT BELOWzqGRAVEzqHOOK ABOVEzqTILDEzbDIAERESISzk AND MACRONzcOT ABOVEzk AND MACRON",
   "zfBELOWzdUBLE ACUTEziGRAVEzbGRAVEzbHOOK ABOVEzdRNzf AND ACUTEzkDOT BELOWzkGRAVEzkHOOK ABOVEzk",
   "TILDEzbINVERTED BREVEzbLONG STROKE OVERLAYzdOPzbMACRONzh AND ACUTEzmGRAVEzcIDDLE TILDEzbOGONE",
   "Kzh AND MACRONzbSTROKEzh AND ACUTEzbTILDEzg AND ACUTEzlDIAERESISzlMACRONvIvLD POLISH OvMEGAvO",
   "vPEN EzOvUuPv WITH ACUTEzbDOT ABOVEzbFLOURISHzbHOOKzbSQUIRREL TAILzcTROKEzh THROUGH DESCENDER",
   "uQv WITH DIAGONAL STROKEzbSTROKE THROUGH DESCENDERuRv ROTUNDAwWITH ACUTEzbCARONzcEDILLAzbDOT ",
   "ABOVEzfBELOWzk AND MACRONzdUBLE GRAVEzbINVERTED BREVEzbLINE BELOWzbOBLIQUE STROKEzbSTROKEzbTA",
   "ILvEVERSED C WITH DOTzdEzdHALF HzdOPEN EvUM ROTUNDAuSv WITH ACUTEzg AND DOT ABOVEzbCARONzg AN",
   "D DOT ABOVEzcEDILLAzcIRCUMFLEXzcOMMA BELOWzbDOT ABOVEzfBELOWzk AND DOT ABOVEzbHOOKzbOBLIQUE S",
   "TROKEzbSHORT STROKE OVERLAYzcWASH TAILvALTILLOvCHWAwRIPT GvHARP SvIGMOID SvMALL CAPITAL IzaQ ",
   "WITH HOOK TAILuTv WITH CARONzcEDILLAzcIRCUMFLEX BELOWzcOMMA BELOWzbDIAGONAL STROKEzcOT ABOVEz",
   "fBELOWzbHOOKzbLINE BELOWzbRETROFLEX HOOKzbSTROKEvHORNz WITH STROKEzl THROUGH DESCENDERvONE FI",
   "VEzSIXzTWOvRESILLOvURNED AzcLPHAzbHzbINSULAR GzbKzbLzbMzbTzbVvZuUv BARwWITH ACUTEzbBREVEzbCAR",
   "ONzcIRCUMFLEXzl BELOWzbDIAERESISzk AND ACUTEzpCARONzpGRAVEzpMACRONzlBELOWzcOT BELOWzdUBLE ACU",
   "TEziGRAVEzbGRAVEzbHOOK ABOVEzdRNzf AND ACUTEzkDOT BELOWzkGRAVEzkHOOK ABOVEzkTILDEzbINVERTED B",
   "REVEzbMACRONzh AND DIAERESISzbOGONEKzbRING ABOVEzbSTROKEzbTILDEzg AND ACUTEzhBELOWvPSILONuVv ",
   "WITH DIAGONAL STROKEzcOT BELOWzbHOOKzbTILDEvENDvISIGOTHIC ZvOLAPUK AEzcOEzcUEvYuWv WITH ACUTE",
   "zbCIRCUMFLEXzbDIAERESISzcOT ABOVEzfBELOWzbGRAVEzbHOOKvYNNuXv WITH DIAERESISzcOT ABOVEuYv WITH",
   " ACUTEzbCIRCUMFLEXzbDIAERESISzcOT ABOVEzfBELOWzbGRAVEzbHOOKzf ABOVEzbLOOPzbMACRONzbSTROKEzbTI",
   "LDEvOGHuZv WITH ACUTEzbCARONzcIRCUMFLEXzbDESCENDERzcOT ABOVEzfBELOWzbHOOKzbLINE BELOWzbPALATA",
   "L HOOKzbSTROKEzcWASH TAILoIGATURE IJwOEgROSSfEPIGRAPHIC LETTER ARCHAIC MxI LONGAyNVERTED MxRE",
   "VERSED FzgPxSIDEWAYS IfLETTER AINnLVEOLAR CLICKmBIDENTAL PERCUSSIVEoLABIAL CLICKvPERCUSSIVEmD",
   "ENTAL CLICKmGLOTTAL STOPy WITH STROKEmINVERTED GLOTTAL STOPzh WITH CURLznSTROKEmLATERAL CLICK",
   "mPHARYNGEAL VOICED FRICATIVEmRETROFLEX CLICKzb WITH RETROFLEX HOOKoVERSED ESH LOOPvGLOTTAL ST",
   "OP WITH STROKEmSINOLOGICAL DOTnMALL CAPITAL AzbEzaBzbARRED BzaCzaDzaEzbTHzbZHzaFzaGzb WITH HO",
   "OKzaHzaIzbNVERTED RzaJzaKzaLzb WITH BELTzhSTROKEzaMzaNzaOzbEzbPEN OzbUzaPzaQzaRzb WITH RIGHT ",
   "LEGzbEVERSED NzjRzbUMzaSzaTzbURNED EzhGzhKzhMzhRzaUzaVzaWzaYzaZnTRETCHED Cx WITH CURLmTWO WIT",
   "H STROKEmVOICED LARYNGEAL SPIRANTmWYNNmYRfSMALL CAPITAL LETTER I WITH STROKEzaU WITH STROKElL",
   "ETTER At REVERSED-SCHWAuWITH ACUTEzBREVEze AND ACUTEzjDOT BELOWzjGRAVEzjHOOK ABOVEzjTILDEzCAR",
   "ONzaIRCUMFLEXzj AND ACUTEzoDOT BELOWzoGRAVEzoHOOK ABOVEzoTILDEzDIAERESISzi AND MACRONzaOT ABO",
   "VEzi AND MACRONzdBELOWzbUBLE GRAVEzGRAVEzHOOK ABOVEzINVERTED BREVEzMACRONzOGONEKzRETROFLEX HO",
   "OKzaIGHT HALF RINGzbNG ABOVEzj AND ACUTEzeBELOWzSTROKEzTILDEtAtEu WITH ACUTEzaMACRONtLPHAx WI",
   "TH RETROFLEX HOOKtNGLICANA WtOtUtVu WITH HORIZONTAL BARtYsBt WITH DOT ABOVEzdBELOWzFLOURISHzH",
   "OOKzLINE BELOWzMIDDLE TILDEzPALATAL HOOKzSTROKEzTOPBARtARRED ALPHAzEzOuSELINE ESHtETAtLACKLET",
   "TER EzeOzf WITH STROKEtOTTOM HALF OtROKEN LsCt WITH ACUTEzBARzCARONzaEDILLAzg AND ACUTEzaIRCU",
   "MFLEXzaURLzDOT ABOVEzHOOKzPALATAL HOOKzRETROFLEX HOOKzSTROKEtHIv WITH LOW LEFT SERIFzfRIGHT R",
   "INGtLOSED INSULAR GzOMEGAzaPEN EzREVERSED OPEN EtONtUATRILLOzb WITH COMMAsDt WITH CARONzaEDIL",
   "LAzaIRCUMFLEX BELOWzaURLzDOT ABOVEzdBELOWzHOOKzd AND TAILzLINE BELOWzMIDDLE TILDEzPALATAL HOO",
   "KzSHORT STROKE OVERLAYzaTROKEzTAILzaOPBARtB DIGRAPHtELTAuZH DIGRAPHze WITH PALATAL HOOKzkRETR",
   "OFLEX HOOKtOTLESS IzaJzb WITH STROKEzn AND HOOKuUBLE Rza WITH CROSSED-TAILzTHORNzWYNNtUMtZu D",
   "IGRAPHzc WITH CURLziRETROFLEX HOOKvWITH CARONsEt WITH ACUTEzBREVEzCARONzaEDILLAzg AND BREVEza",
   "IRCUMFLEXzj AND ACUTEzoDOT BELOWzoGRAVEzoHOOK ABOVEzoTILDEzkBELOWzDIAERESISzaOT ABOVEzdBELOWz",
   "bUBLE GRAVEzFLOURISHzGRAVEzHOOK ABOVEzINVERTED BREVEzMACRONzf AND ACUTEzkGRAVEzNOTCHzOGONEKzR",
   "ETROFLEX HOOKzSTROKEzTILDEze BELOWtGYPTOLOGICAL AINzhLEFtNGv WITH CROSSED-TAILzbPALATAL HOOKt",
   "SHv WITH CURLzbDOUBLE BARzl AND CURLzbPALATAL HOOKzbRETROFLEX HOOKtTuHtZHv REVERSEDwWITH CARO",
   "NzcURLzbPALATAL HOOKzbRETROFLEX HOOKzbTAILsFt WITH DOT ABOVEzHOOKzMIDDLE TILDEzPALATAL HOOKzS",
   "TROKEtENG DIGRAPHze WITH TRILLsGt WITH ACUTEzBREVEzCARONzaEDILLAzaIRCUMFLEXzDOT ABOVEzHOOKzMA",
   "CRONzOBLIQUE STROKEzPALATAL HOOKzSTROKEtAMMAtHAtLOTTAL AzaIzaSTOPzaUsHt WITH BREVE BELOWzCARO",
   "NzaEDILLAzaIRCUMFLEXzDESCENDERzaIAERESISzaOT ABOVEzdBELOWzHOOKzLINE BELOWzPALATAL HOOKzSTROKE",
   "tALF HtENGw WITH HOOKtVsIt WITH ACUTEzBREVEzCARONzaIRCUMFLEXzDIAERESISzi AND ACUTEzaOT BELOWz",
   "bUBLE GRAVEzGRAVEzHOOK ABOVEzINVERTED BREVEzMACRONzOGONEKzRETROFLEX HOOKzSTROKEzf AND RETROFL",
   "EX HOOKzTILDEze BELOWtNSULAR DzaFzaGzaRzaSzaTuVERTED ALPHAzbOEtOTAw WITH STROKEvIFIED EtSsJt ",
   "WITH CARONzaIRCUMFLEXzaROSSED-TAILzSTROKEsKt WITH ACUTEzCARONzaEDILLAzDESCENDERzaIAGONAL STRO",
   "KEzaOT BELOWzHOOKzLINE BELOWzOBLIQUE STROKEzPALATAL HOOKzSTROKEzf AND DIAGONAL STROKEtRAsLt W",
   "ITH ACUTEzBARzaELTzd AND PALATAL HOOKzCARONzaEDILLAzaIRCUMFLEX BELOWzaURLzDOT BELOWzi AND MAC",
   "RONzbUBLE BARzgMIDDLE TILDEzFISHHOOKzHIGH STROKEzINVERTED LAZY SzLINE BELOWzMIDDLE DOTzgRINGz",
   "gTILDEzPALATAL HOOKzRETROFLEX HOOKzn AND BELTzSTROKEtAMBDA WITH STROKEtENIS FuZHw WITH RETROF",
   "LEX HOOKtJtONG Sy WITH DIAGONAL STROKEzfOT ABOVEzeHIGH STROKEtS DIGRAPHtUMtZ DIGRAPHsMt WITH ",
   "ACUTEzCROSSED-TAILzDOT ABOVEzdBELOWzHOOKzMIDDLE TILDEzPALATAL HOOKtIDDLE SCOTS Sy-WELSH LLzfV",
   "tUMsNt PRECEDED BY APOSTROPHEuWITH ACUTEzCARONzaEDILLAzaIRCUMFLEX BELOWzaROSSED-TAILzaURLzDES",
   "CENDERzaOT ABOVEzdBELOWzGRAVEzLEFT HOOKzaINE BELOWzaONG RIGHT LEGzMIDDLE TILDEzOBLIQUE STROKE",
   "zPALATAL HOOKzRETROFLEX HOOKzTILDEtJtUMsOt WITH ACUTEzBREVEzCARONzaIRCUMFLEXzj AND ACUTEzoDOT",
   " BELOWzoGRAVEzoHOOK ABOVEzoTILDEzDIAERESISzi AND MACRONzaOT ABOVEzi AND MACRONzdBELOWzbUBLE A",
   "CUTEzgGRAVEzGRAVEzHOOK ABOVEzbRNzd AND ACUTEziDOT BELOWziGRAVEziHOOK ABOVEziTILDEzINVERTED BR",
   "EVEzLONG STROKE OVERLAYzbOPzbW RING INSIDEzMACRONzf AND ACUTEzkGRAVEzOGONEKzf AND MACRONzRETR",
   "OFLEX HOOKzSTROKEzf AND ACUTEzTILDEze AND ACUTEzjDIAERESISzjMACRONtItLD POLISH OtMEGAtOtPEN E",
   "y WITH RETROFLEX HOOKxOy WITH RETROFLEX HOOKzeSTROKEyEtUsPt WITH ACUTEzDOT ABOVEzFLOURISHzHOO",
   "KzMIDDLE TILDEzPALATAL HOOKzSQUIRREL TAILzaTROKEzf THROUGH DESCENDERtHIsQt WITH DIAGONAL STRO",
   "KEzHOOKzd TAILzSTROKE THROUGH DESCENDERtP DIGRAPHsRt ROTUNDAuWITH ACUTEzCARONzaEDILLAzaROSSED",
   "-TAILzDOT ABOVEzdBELOWzi AND MACRONzbUBLE GRAVEzFISHHOOKzh AND MIDDLE TILDEzmPALATAL HOOKzINV",
   "ERTED BREVEzLINE BELOWzaONG LEGzMIDDLE TILDEzOBLIQUE STROKEzPALATAL HOOKzSTROKEzTAILyOUT HAND",
   "LEtAMS HORNtEVERSED Czc WITH DOTzbEzcNGzbHALF HzbKzbOPEN Ezh WITH HOOKznRETROFLEX HOOKzbR WIT",
   "H FISHHOOKzbSCRIPT GtUMv ROTUNDAsSt WITH ACUTEze AND DOT ABOVEzCARONze AND DOT ABOVEzaEDILLAz",
   "aIRCUMFLEXzaOMMA BELOWzaURLzDOT ABOVEzdBELOWzi AND DOT ABOVEzHOOKzMIDDLE TILDEzOBLIQUE STROKE",
   "zPALATAL HOOKzSHORT STROKE OVERLAYzaWASH TAILtAKHA YATuLTILLOtCHWAx WITH HOOKzdRETROFLEX HOOK",
   "uRIPT Gza WITH CROSSED-TAILzRza WITH RINGtHARP StIDEWAYS DIAERESIZED UzbOzc WITH STROKEzcPEN ",
   "OzbTURNED MzbUuGMOID StQUAT REVERSED ESHtTIRRUP RsTt WITH CARONzaEDILLAzaIRCUMFLEX BELOWzaOMM",
   "A BELOWzaURLzDIAERESISzcGONAL STROKEzaOT ABOVEzdBELOWzHOOKzd AND RETROFLEX HOOKzLINE BELOWzMI",
   "DDLE TILDEzPALATAL HOOKzRETROFLEX HOOKzSTROKEtAILLESS PHItC DIGRAPH WITH CURLtESH DIGRAPHze W",
   "ITH PALATAL HOOKzkRETROFLEX HOOKtH WITH STRIKETHROUGHuORNx WITH STROKEzj THROUGH DESCENDERtON",
   "E FIVExSIXxTWOuP HALF OtRESILLOtS DIGRAPHzc WITH RETROFLEX HOOKtUMuRNED AzaEzaLPHAzDELTAzEzGz",
   "Hza WITH FISHHOOKzo AND TAILzIzaNSULAR GzKzLzMza WITH LONG LEGzO OPEN-Ozh WITH STROKEzaEzb WI",
   "TH HORIZONTAL STROKEzhSTROKEzaPEN EzRza WITH HOOKzgLONG LEGzo AND RETROFLEX HOOKzgMIDDLE TILD",
   "EzgPALATAL HOOKzgTAILzTza WITH CURLzUIzVzWzYza WITH BELTtZsUt BARx WITH SHORT RIGHT LEGuWITH ",
   "ACUTEzBREVEzCARONzaIRCUMFLEXzj BELOWzDIAERESISzi AND ACUTEznCARONznGRAVEznMACRONzjBELOWzaOT B",
   "ELOWzbUBLE ACUTEzgGRAVEzGRAVEzHOOK ABOVEzbRNzd AND ACUTEziDOT BELOWziGRAVEziHOOK ABOVEziTILDE",
   "zINVERTED BREVEzLEFT HOOKzMACRONzf AND DIAERESISzOGONEKzRETROFLEX HOOKzaING ABOVEzSHORT RIGHT",
   " LEGzaTROKEzTILDEze AND ACUTEzfBELOWtEtItMtOtPSILONz WITH STROKEsVt WITH CURLzDIAGONAL STROKE",
   "zaOT BELOWzHOOKzPALATAL HOOKzRIGHT HOOKzTILDEtENDtISIGOTHIC ZtOLAPUK AEzaOEzaUEtYsWt WITH ACU",
   "TEzCIRCUMFLEXzDIAERESISzaOT ABOVEzdBELOWzGRAVEzHOOKzRING ABOVEsXt WITH DIAERESISzaOT ABOVEzLO",
   "NG LEFT LEGzm AND LOW RIGHT RINGznWITH SERIFzbW RIGHT RINGzPALATAL HOOKsYt WITH ACUTEzCIRCUMF",
   "LEXzDIAERESISzaOT ABOVEzdBELOWzGRAVEzHOOKzd ABOVEzLOOPzMACRONzRING ABOVEzSHORT RIGHT LEGzaTRO",
   "KEzTILDEtOGHsZt WITH ACUTEzCARONzaIRCUMFLEXzaURLzDESCENDERzaOT ABOVEzdBELOWzHOOKzLINE BELOWzM",
   "IDDLE TILDEzPALATAL HOOKzRETROFLEX HOOKzSTROKEzaWASH TAILmIGATURE FFwIwLvIvLuIJuLONG S TuOEuS",
   "TgUBSCRIPT SMALL LETTER AzcEzcHzcIzcJzcKzcLzcMzcNzcOzcPzcRzcSzdCHWAzcTzcUzcVzcXaEAF FLUTTERIN",
   "G IN WINDdY GREENbDGERbFT AND LOWER AND RIGHT TRIANGULAR THREE QUARTERS BLOCKoONE EIGHTH BLOC",
   "KiRIGHT DOUBLE TURNSTILEoTACKpRIANGULAR HALF BLOCKiUPPER AND RIGHT TRIANGULAR THREE QUARTERS ",
   "BLOCKoONE EIGHTH BLOCKgGER BUBBLEhLE BRACKETr WITH DOTfRC LESS-THAN BRACKETgROW WITH CIRCLED ",
   "PLUSpSMALL CIRCLEeBARB DOWN RIGHT BARB DOWN HARPOONzUP HARPOONjUP RIGHT BARB DOWN HARPOONxUP ",
   "HARPOONfLACK LENTICULAR BRACKETkTORTOISE SHELL BRACKETeCEILINGfLOSED ENTRYfORNER BRACKETfURLY",
   " BRACKETr LOWER HOOKsMIDDLE PIECEsUPPER HOOKeDOTTED SUBSTITUTION BRACKETgUBLE ANGLE BRACKETlP",
   "ARENTHESISlQUOTATION MARKlWIGGLY FENCEeFISH TAILgVE EIGHTHS BLOCKfLOOReHALF BLACK CIRCLEpSTAR",
   "lOCKjCIRCLEp WITH DOTvFOUR DOTSvTHREE DOTSwWO DOTSjFOLDERjINVERSE MEDIUM SHADE AND RIGHT HALF",
   " BLOCKjMEDIUM SHADEjRUNNING MANgND TELEPHONE RECEIVEReLOW PARAPHRASE BRACKETfUGGAGEeMULTIMAPe",
   "NORMAL FACTOR SEMIDIRECT PRODUCTeONE EIGHTH BLOCKiQUARTER BLOCKfUTER JOINePARENTHESISp EXTENS",
   "IONqLOWER HOOKqUPPER HOOKeRAISED OMISSION BRACKETfIGHT ARROWp THROUGH SMALL CIRCLEqWITH DOUBL",
   "E VERTICAL STROKEvSTROKEvVERTICAL STROKEkBLACK ARROWkDOUBLE ARROWw WITH STROKEzcVERTICAL STRO",
   "KEkOPEN-HEADED ARROWkSANS-SERIF ARROWkTRIANGLE-HEADED ARROWkWAVE ARROWlHITE ARROWeS-SHAPED BA",
   "G DELIMITERfEMIDIRECT PRODUCTgVEN EIGHTHS BLOCKfIDEWAYS U BRACKETgNGLE QUOTATION MARKfPEECH B",
   "UBBLEfQUARE BRACKETs EXTENSIONtLOWER CORNERtUPPER CORNERtWITH DOUBLE STROKEyQUILLySTROKEyTICK",
   " IN BOTTOM CORNERzgTOP CORNERyUNDERBARfUBSTITUTION BRACKETeTACKfHIRD WHITE RIGHT POINTING IND",
   "EXgOUGHT BUBBLEgREE EIGHTHS BLOCKkQUARTERS BLOCKfORTOISE SHELL BRACKETfRANSPOSITION BRACKETgI",
   "ANGLE BESIDE VERTICAL BARkULAR ONE QUARTER BLOCKeVERTICAL BAR WITH QUILLoOX LINEeWHITE CORNER",
   " BRACKETlURLY BRACKETkLENTICULAR BRACKETkPARENTHESISkSQUARE BRACKETkTORTOISE SHELL BRACKETfIG",
   "GLY FENCEfRITING HANDd-FACING ARMENIAN ETERNITY SIGNlFISTlSVASTI SIGNw WITH DOTSeHANDED INTER",
   "LACED PENTAGRAMePOINTING ANGLE BRACKETnCURVED ANGLE BRACKETnDOUBLE ANGLE QUOTATION MARKnMAGNI",
   "FYING GLASSeSHADED WHITE RIGHTWARDS ARROWfIDE ARC ANTICLOCKWISE ARROWeTO-RIGHT EMBEDDINGnISOL",
   "ATEnMARKnOVERRIDEdWARDS ARROWo ABOVE ALMOST EQUAL TOvREVERSE ALMOST EQUAL TOzdTILDE OPERATORv",
   "SHORT RIGHTWARDS ARROWvTILDE OPERATORqND UPPER AND LOWER ONE EIGHTH BLOCKpFROM BARx TO BLACK ",
   "DIAMONDpOVER RIGHTWARDS ARROWpTHROUGH LESS-THANxSUBSETxXqO BARv OVER RIGHTWARDS ARROW TO BARt",
   "LACK DIAMONDpWITH DOTTED STEMwUBLE VERTICAL STROKEuEQUILATERAL ARROWHEADuHOOKuLARGE TRIANGLE ",
   "ARROWHEADvOOPuMEDIUM TRIANGLE ARROWHEADuNOTCHED TAILuPLUS BELOWuSMALL EQUILATERAL ARROWHEADza",
   "TRIANGLE ARROWHEADvTROKEuTAILy WITH DOUBLE VERTICAL STROKEzeVERTICAL STROKEvIP DOWNWARDSyUPWA",
   "RDSuVERTICAL STROKEo-TAILjBACK-TILTED SHADOWED WHITE ARROWkLACK ARROWpCIRCLED WHITE ARROWkOTT",
   "OM-SHADED WHITE ARROWjCOMPRESSED ARROWjDASHED ARROWkOUBLE ARROWv FROM BARwWITH STROKEzbVERTIC",
   "AL STROKEv-TAILqDASH ARROWjFINGER-POST ARROWkRONT-TILTED SHADOWED WHITE ARROWjHANDlRPOON OVER",
   " RIGHTWARDS HARPOONrWITH BARB DOWN ABOVE RIGHTWARDS HARPOON WITH BARB DOWNzgBELOW LONG DASHzg",
   "FROM BARzgTO BARzfWARDSzbUP ABOVE LEFTWARDS HARPOON WITH BARB DOWNzlONG DASHzkRIGHTWARDS HARP",
   "OON WITH BARB UPzeFROM BARzeTO BARzdWARDSkEAVY ARROWpCOMPRESSED ARROWjLEFT-SHADED WHITE ARROW",
   "jOPEN-HEADED ARROWjPAIRED ARROWSjQUADRUPLE ARROWjRIGHT-SHADED WHITE ARROWkOCKETjSANS-SERIF AR",
   "ROWkQUARED ARROWmIGGLE ARROWjTOP SHADED WHITE ARROWkRIANGLE ARROWHEADr-HEADED ARROWze OVER RI",
   "GHTWARDS TRIANGLE-HEADED ARROWzfTO BARzfWITH BOLD SHAFTzkDOUBLE HORIZONTAL STROKEzrVERTICAL S",
   "TROKEzkHEAVY SHAFTzkLONG TIP DOWNWARDSztUPWARDSzkMEDIUM SHAFTzkNARROW SHAFTzkVERY HEAVY SHAFT",
   "zDASHED ARROWzPAIRED ARROWSmPLE ARROWqDASH ARROWkWO HEADED ARROWm-HEADED ARROW FROM BARzaWITH",
   " DOUBLE VERTICAL STROKEzfTAILzj WITH DOUBLE VERTICAL STROKEzpVERTICAL STROKEzgRIANGLE ARROWHE",
   "ADSzfVERTICAL STROKEuTRIPLE DASH ARROWjWAVE ARROWkHITE ARROWu WITHIN TRIANGLE ARROWHEADbGbMON",
   "bOcPARDbPCHA CONSONANT SIGN KwANGvLvMvNwYIN-DOvPvRvTgDIGIT EIGHTmFIVEnOURmNINEmONEmSEVENnIXmT",
   "HREEnWOmZEROgLETTER AnBAoLAnCAoHAnDAoDAoZAnFAoLAnGAoLAnHAoLAnJAnKAoHAoLAnLAnMAoLAnNAoGAoYAnPA",
   "oHAoLAnRAnSAoHAnTAoHAoSApHAoTApHAnVAnWAnYAgPUNCTUATION CER-WAsNYET THYOOM TA-ROLsTA-ROLtSHOOK",
   "y CER-WAgSIGN NUKTAlRANhUBJOINED LETTER RAxYAgVOWEL SIGN AArErIrOsOrUsUbSS-THAN ABOVE DOUBLE-",
   "LINE EQUAL ABOVE GREATER-THANpGREATER-THAN ABOVE DOUBLE-LINE EQUALpLEFTWARDS ARROWpSIMILAR AB",
   "OVE GREATER-THANxOR EQUALqLANTED EQUAL ABOVE GREATER-THAN ABOVE SLANTED EQUALkND NOT APPROXIM",
   "ATEnSINGLE-LINE NOT EQUAL TOjBUT NOT EQUAL TOuIVALENT TOjCLOSED BY CURVEy ABOVE SLANTED EQUAL",
   "jEQUAL TO OR GREATER-THANjOR APPROXIMATEmEQUAL TOpIVALENT TOmGREATER-THANmSLANTED EQUAL TOzc ",
   "WITH DOT ABOVEzr RIGHTzmINSIDEkVER EQUAL TOjSIGNjWITH CIRCLE INSIDEoDOToQUESTION MARK ABOVEbV",
   "EL SLIDERaFaIBRAbGATURE OPEN ET ORNAMENTcHT CHECK MARKfEIGHT SPOKED ASTERISKfFIVE POINTED BLA",
   "CK STARkSPOKED ASTERISKgOUR POINTED BLACK CUSPySTARfGREEK CROSSfLEFT TORTOISE SHELL BRACKET O",
   "RNAMENTfRAILgIGHT TORTOISE SHELL BRACKET ORNAMENTfSALTIREgHADEgIX SPOKED ASTERISKfTHREE POINT",
   "ED BLACK STARgWELVE POINTED BLACK STARfVERTICAL BARfWHITE SQUAREeNINGi MOODn BUBBLEbMBU DIGIT",
   " EIGHTlFIVEmOURlNINElONElSEVENmIXlTHREEmWOlZEROfEXCLAMATION MARKfLETTER BAnHAmCAnHAmDAnHAmGAn",
   "HAnYANmHAmJAnHAmKAnHAmLAmMAmNAnGAmPAnHAmRAmSAnHAnSAmTAnHAnRAmWAmYAoNfQUESTION MARKfSIGN KEMPH",
   "RENGkLOOkMUKPHRENGkSA-IgMALL LETTER ANUSVARAsKAsLAsMAsNAtGAsPAsRAsTAgUBJOINED LETTER RAwWAwYA",
   "fVOWEL SIGN ArIrUqErEqIqOrOqUk-CARRIER LETTERcITED LIABILITY SIGNbNE FEEDeINTEGRATION NOT INC",
   "LUDING THE POLEqWITH RECTANGULAR PATH AROUND POLEvSEMICIRCULAR PATH AROUND POLEeSEPARATOReTAB",
   "ULATIONo SETdAR A SIGN A028Bo100-102p20Bp31Co301q2q3q4q5q6q7q8q9ArBrCp10q1q2q3ArBrCq4q5q6q7q8",
   "q9p20q1q2q3q4q5q6q7q8q9p30q1q2q3q4q5q6q7q8q9p40q1q2q3q4q5q6q7q8q9p50q1q2q3q4q5q6q7q8q9p60q1q2",
   "q3q4q5q6q7q8q9p70q1o400-VASq1-VASq2-VASq3-VASq4-VASq5-VASq6-VASq7-VASq8-VASq9-VASp10-VASq1-VA",
   "Sq2-VASq3-VASq4-VASq5-VASq6-VASq7-VASq8-VASo501q2q3q4q5q6q8q9p10q1q2q3q5q6p20q1q3q4q5q6q7q8q9",
   "p30q1q2q4q5q6q7q8q9p40q1q2q5q7q8q9p50q1q2q3q4q5q6q7q9p63q4q5q6q8q9p70q1q2q3q4q5q6q7q8q9p80q1q",
   "2q3q4q5q6q7q8q9p91q2q4q5q6q8o600q1q2q3q4q6q8q9p10q1q2q3q4q5q6q7q8q9p20q1q2q3q4q6q7q8q9p34q7q8",
   "p40q2q3q4q5q6q8q9p51q2q3q4q5q6q7q8q9p60q1q2q3q4o701 Aq2 Bq3 Dq4 Eq5 Fq6 Hq7 Jq8 Kq9 Lr-2 L2s3",
   " L3s4 L4s6 L6p10 Wq1 Xq2 Yq3 OMEGAq4 ABBq5 BBq7 DDp26 EYYYp32 JEo800q1q2q3q4q5q6q7oB001r2r3r4",
   "r5r6r7r8r9q10r1r3r6r7q20r1sFsMr2sFsMr3sMr4r6r7r8r9q30r1r4r7r8r9q40r1r4r5r6r7r8r9q50r1r3r4r5r6",
   "r7r8r9q60r1r5r6r7r9q70r3r4r6r7r8r9q80r1r2r5r6r7p118q20r2r3q31AsBq64q71q80r8q91gB IDEOGRAM B10",
   "0 MANu2 WOMANu4 DEERu5 EQUIDvF MAREvM STALLIONu6F EWEvM RAMu7F SHE-GOATvM HE-GOATu8F SOWvM BO",
   "ARu9F COWvM BULLt20 WHEATu1 BARLEYu2 OLIVEu3 SPICEu5 CYPERUSt30 OILu1 WINEu2t40 BRONZEu1 GOLD",
   "u2u5 WOOLu6t50u1 HORNu2u3u4u7u8u9 CLOTHt60u1u2 GARMENTu3 ARMOURu4u5u6u7u8u9t70u1u2u3 MONTHu4u",
   "6 TREEu7u8u9t80u1u2u3u4u5u9t90u1 HELMETs220 FOOTSTOOLu5 BATHTUBt30 SPEARu1 ARROWu2u3 SWORDu4u",
   "6t40 WHEELED CHARIOTu1 CHARIOTu2 CHARIOT FRAMEu3 WHEELu5u6u8u9t51u2u3u4 DARTu5u6u7u8u9rVESSEL",
   " B155z200zb1zb2zb3zb4zb5zb6zb7zb8zb9za10zb1zb2zb3zb4zb5zb6zb7zb8zb9za21zb2zb6zb7zb8zb9za50z30",
   "5iMONOGRAM B127 KAPOu8 KANAKOt33 AREPAu5 MERIt56 TURO2s247 DIPTEiSYLLABLE B001 DAu2 ROu3 PAu4",
   " TEu5 TOu6 NAu7 DIu8 Au9 SEt10 Uu1 POu2 SOu3 MEu4 DOu5 MOu6 QAu7 ZAt20 ZOu1 QIu3 MUu4 NEu5 A2",
   "u6 RUu7 REu8 Iu9 PU2t30 NIu1 SAu2 QOu3 RA3u6 JOu7 TIu8 Eu9 PIt40 WIu1 SIu2 WOu3 A3u4 KEu5 DEu",
   "6 JEu8 NWAt50 PUu1 DUu2 NOu3 RIu4 WAu5 NUu7 JAu8 SUu9 TAt60 RAu1 Ou2 PTEu5 JUu6 TA2u7 KIu8 RO",
   "2u9 TUt70 KOu1 DWEu2 PEu3 MIu4 ZEu5 WEu6 RA2u7 KAu8 QEt80 MAu1 KUu5 AUu7 TWEt90 DWOu1 TWOkMBO",
   "L B018s9r22r34r47s9r56r63s4r79r82s3s6s9cK SYMBOLdED PAPERCLIPSbON FACEbPSdTICKbRA SIGNbSU LET",
   "TER AmElBAlCAmHAlDAmZAlEmUlFAlGAmHAlHAmHAlIlJAlKAmHAlLAlMAlNAmGAlOmElPAmHAlSAmHAlTAmHAmONE MY",
   "A BOuCYAuJEUuNAuTIqNA POmSAnHAlUmEmHlWAlXAlYAmHAlZAmHAePUNCTUATION COMMAqFULL STOPbVRE TOURNO",
   "IS SIGNbZARDaLAMAaOBSTERbCKd WITH INK PENdING-SHIFT ONEnZERObGICAL ANDk WITH DOT ABOVEsUBLE O",
   "VERBARxUNDERBARqHORIZONTAL DASHqMIDDLE STEMqUNDERBARhORj OVERLAPPING LOGICAL ANDkWITH DOT ABO",
   "VErUBLE OVERBARwUNDERBARpHORIZONTAL DASHpMIDDLE STEMbLLIPOPbNG DASH FROM LEFT MEMBER OF DOUBL",
   "E VERTICALfIVISIONfRUMeLEFT RIGHT ARROWpDOUBLE ARROWjTACKiWARDS ARROWt FROM BARoDOUBLE ARROWz",
   "a FROM BARoSQUIGGLE ARROWeRIGHT TACKjWARDS ARROWu FROM BARpDOUBLE ARROWzb FROM BARpSQUIGGLE A",
   "RROWbTION BOTTLEcUSbUDLY CRYING FACEbVE HOTELeLETTERbW ASTERISKdBATTERYeRIGHTNESS SYMBOLdDOUB",
   "LE PRIME QUOTATION MARKdKAVYKAj WITH DOTdLINEcER BLADE SCISSORSfFIVE EIGHTHS BLOCKfHALF BLOCK",
   "kCIRCLEkINVERSE WHITE CIRCLEkMEDIUM SHADEfLEFT BALLPOINT PENlLOCK DIAGONAL LOWER MIDDLE LEFT ",
   "TO LOWER CENTREzzaRIGHTzUPPER CENTRE TO LOWER MIDDLE RIGHTzvRIGHTzpUPPER MIDDLE RIGHTzfLEFT T",
   "O LOWER CENTREztMIDDLE RIGHTznUPPER MIDDLE RIGHTzfMIDDLE LEFT TO LOWER CENTREzzaMIDDLE RIGHTz",
   "zaRIGHTkCRAYONkFOUNTAIN PENkPAINTBRUSHlENCILkQUADRANT CIRCULAR ARCkSEMICIRCULAR ANTICLOCKWISE",
   " ARROWkTRIANGLEqULAR MEDIUM SHADEfONE EIGHTH BLOCKjQUARTER BLOCKfRIGHT BLOCK DIAGONAL LOWER C",
   "ENTRE TO LOWER MIDDLE RIGHTzqUPPER MIDDLE RIGHTzwRIGHTzgLEFT TO LOWER MIDDLE RIGHTzoUPPER CEN",
   "TREzuMIDDLE RIGHTzgMIDDLE LEFT TO UPPER CENTREzzbMIDDLE RIGHTzzbRIGHTzaUPPER MIDDLE LEFT TO U",
   "PPER CENTREzzbRIGHTlCORNER WITH DOTlDROP-SHADOWED WHITE SQUARElPENCILlQUADRANT CIRCULAR ARClS",
   "EMICIRCULAR CLOCKWISE ARROWmHADOWED WHITE CIRCLEzaSQUARElTRIANGLErULAR MEDIUM SHADEfSEVEN EIG",
   "HTHS BLOCKfTHREE EIGHTHS BLOCKlQUARTERS BLOCKgRIANGULAR ONE QUARTER BLOCKbZENGEg DIVIDED BY H",
   "ORIZONTAL RULEaREbIbMbOaUGGAGEbNGSaYCIAN LETTER AoNnBoHnDnEoNnGnHnInJnKoKnLnMoMnNoNnPnQnRnSnT",
   "oHoTnUnWnXnZbDIAN LETTER AoNnBnCnDnEoNnFnGnInKnLoYnMnNoNnOnQnRnSoSnToTnUnVnYgTRIANGULAR MARKb",
   "ING FACE"]

end Gloss.Text.CharName
