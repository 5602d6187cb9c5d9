/-! The names of characters that begin with the letter A, as pages. -/

namespace Gloss.Text.CharName

/-- The page of the letter A. -/
def pageA : List String :=
  ["ABACUSaC CURRENTbCORDIONdUNT OFbKcNOWLEDGEbTIVATE ARABIC FORM SHAPINGiSYMMETRIC SWAPPINGbUTE ",
   "ACCENTgNGLEaDDRESSED TO THE SUBJECTbHESIVE BANDAGEbI SHAKTIbLAM ALIF LENGTHENERfCAPITAL LETTE",
   "R ALIFuBAvHEuCHIuDAALIvHAuEuFAuGAvBEuHAuIuJIIMuKAFvHAvPOuLAAMuMIIMuNHAvUNvYAuOuPEuQAAFuRAuSHA",
   "vINNYIIYHEuTUuUuVAuWAWuYAvHEuZALgONSONANT MODIFIERfDIGIT EIGHTlFIVEmOURlNINElONElSEVENmIXlTHR",
   "EEmWOlZEROfGEMINATE CONSONANT MODIFIERmION MARKfHAMZAfINITIAL EXCLAMATION MARKnQUESTION MARKf",
   "NASALIZATION MARKgUKTAfSMALL LETTER ALIFsBAtHEsCHIsDAALItHAsEsFAsGAtBEsHAsIsJIIMsKAFtHAtPOsLA",
   "AMsMIIMsNHAtUNtYAsOsPEsQAAFsRAsSHAtINNYIIYHEsTUsUsVAsWAWsYAtHEsZALfVOWEL LENGTHENERbMETOScISS",
   "ION TICKETSbULTaEGEAN CHECK MARKgDRY MEASURE FIRST SUBUNITgLIQUID MEASURE FIRST SUBUNITgMEASU",
   "RE SECOND SUBUNIToTHIRD SUBUNITgNUMBER EIGHTs HUNDREDtTHOUSANDsYt THOUSANDnFIFTYs THOUSANDpVE",
   "r HUNDREDsTHOUSANDoORTYs THOUSANDpURr HUNDREDsTHOUSANDnNINEr HUNDREDsTHOUSANDrTYt THOUSANDnON",
   "Eq HUNDREDrTHOUSANDnSEVENs HUNDREDtTHOUSANDsTYu THOUSANDoIXq HUNDREDrTHOUSANDqTYs THOUSANDnTE",
   "Nq THOUSANDoHIRTYt THOUSANDpREEs HUNDREDtTHOUSANDoWENTYt THOUSANDpOq HUNDREDrTHOUSANDgWEIGHT ",
   "BASE UNITnFIRST SUBUNIToOURTH SUBUNITnSECOND SUBUNITnTHIRD SUBUNIThORD SEPARATOR DOTvLINEbRIA",
   "L TRAMWAYaFGHANI SIGNaHOM CONSONANT SIGN MEDIAL LAzbIGATING RAzaRAeDIGIT EIGHTkFIVElOURkNINEk",
   "ONEkSEVENlIXkTHREElWOkZEROeLETTER AmLTERNATE BAvGAvTAlBAmHAlCAmHAlDAmDAnHAmHAlGAmHAlHAlJAmHAl",
   "KAmHAlLAmLAlMAlNAmGAmNAmYAlPAmHAlRAlSAlTAmHAmTAnHAeNUMBER TENmWENTYeSIGN KILLERjRULAIjSECTION",
   "kMALL SECTIONfYMBOL VIeVOWEL SIGN AqAqIqMqWpEpIqIpOpUqUaIRPLANEh ARRIVINGiDEPARTUREaKTIESELSK",
   "ABaLARM CLOCKbCHEMICAL SYMBOL FOR AIRwLEMBICxKALIzb-2xUMwMALGAMwNTIMONY OREwQUA REGIAzf-2zaVI",
   "TAEzf-2zFORTISwRSENICwSHESwURIPIGMENTvBATH OF MARYzdVAPOURSwISMUTH OREwLACK SULFURwORAXza-2zb",
   "3wRICKvCADUCEUSxLXxPUT MORTUUMwINNABARwOPPER ANTIMONIATEzcOREwROCUS OF COPPERzl-2zfIRONxUCIBL",
   "Ezd-2ze3ze4ze5vDAY-NIGHTwISSOLVEzd-2yTILLvEARTHvFIREvGOLDwUMvHALF DRAMzaOUNCEwORSE DUNGxURvIR",
   "ON OREzd-2z-COPPER OREvLEAD OREwODESTONEvMARCASITEwERCURY SUBLIMATEzm-2zn3wONTHvNIGHTxTREvOIL",
   "vPHILOSOPHERS SULFURwOT ASHESxWDERzbED BRICKwRECIPITATEwURIFYxTREFACTIONvQUICK LIMEyNTESSENCE",
   "vREALGARzc-2xGULUSzc OF ANTIMONYzo-2zgIRONzc-2zd3zd4xTORTwOCK SALTze-2vSAL-AMMONIACyTz OF ANT",
   "IMONYzdCOPPER ANTIMONIATEwCEPTER OF JOVEwILVERwOAPwPIRITwTARRED TRIDENTxRATUM SUPER STRATUMzq",
   "-2wUBLIMATE OF ANTIMONYziCOPPERziSALT OF ANTIMONYzqCOPPERzdIONxLFURvTARTARzb-2wIN OREyCTUREwR",
   "IDENTwUTTYvURINEvVERDIGRISwINEGARzc OF ANTIMONYzc-2zd3xTRIOLzc-2vWATERxXbEF SYMBOLcMBICcRTbIE",
   "N MONSTERbL AROUND-PROFILEdEQUAL TObMcOST EQUAL OR EQUAL TOmTOo WITH CIRCUMFLEX ACCENTbTERNAT",
   "E ONE-WAY LEFT WAY TRAFFIChIVE KEY SYMBOLaMALGAMATION OR COPRODUCTbBULANCEbERICAN FOOTBALLbPE",
   "RSANDcHORAaNATOLIAN HIEROGLYPH A001x2x3x4x5x6x7x8x9w10yAx1x2x3x4x5x6x7x8x9w20x1x2x3x4x5x6yAx7",
   "x8x9w30x1x2x3x4x5x6x7x8x9yAw40x1yAx2x3x4x5yAx6yAyBx7x8x9w50x1x2x3x4x5x6x7x8x9w60x1x2x3x4x5x6y",
   "AyByCx7x8x9w70x1x2x3x4x5x6x7x8x9w80x1x2x3x4x5x6x7x8x9w90x1x2x3x4x5x6x7yAx8yAx9v100yAx1yAx2yAx",
   "3x4yAyByCx5yAyBx6x7yAyByCx8x9w10yAyBx1x2x3x4x5yAx6x7x8x9w20x1x2x3x4x5yAx6x7x8x9w30x1x2x3x4x5y",
   "Ax6x7x8x9w40x1x2x3x4x5x6x7x8x9w50x1x2x3x4x5x6x7x8x9w60x1x2x3x4x5x6x7x8x9w70x1x2x3x4x5x6x7x8x9",
   "w80x1x2x3x4x5x6x7x8x9w90x1x2x3x4x5x6x7x8x9v200x1x2yAyBx3x4x5x6x7yAx8x9yAw10x1x2x3x4x5yAx6yAx7",
   "x8x9w20x1x2x3x4x5x6x7yAx8x9w30x1x2x3x4x5x6x7x8x9w40x1x2x3x4x5x6x7x8x9w50x1x2x3x4x5x6x7x8x9w60",
   "x1x2x3x4x5x6x7yAx8x9w70x1x2x3x4x5x6x7x8x9w80x1x2x3x4x5x6x7x8x9yAw90x1x2x3x4yAx5x6x7x8x9yAv300",
   "x1x2x3x4x5x6x7x8x9yAw10x1x2x3x4x5x6x7x8x9w20x1x2x3x4x5x6x7x8x9yAw30x1x2AyByCx3x4x5x6yAyByCx7x",
   "8x9w40x1x2x3x4x5x6x7x8x9w50x1x2x3x4x5x6x7x8x9yAw60x1x2x3x4yAx5x6x7x8yAx9w70x1yAx2x3x4x5x6x7x8",
   "x9w80x1yAx2x3 RA OR RIyAx4x5x6yAx7x8x9w90x1x2x3 EIGHTx4x5x6x7x8x9v400x1x2x3x4x5x6x7x8x9w10 BE",
   "GIN LOGOGRAM MARKyA END LOGOGRAM MARKx1x2x3x4x5x6x7x8x9w20x1x2x3x4x5x6x7x8x9w30x1x2x3x4x5x6x7",
   "x8x9w40x1x2x3x4x5x6x7x8x9w50yAx1x2x3x4x5x6x7yAx8x9w60x1x2x3x4x5x6x7x8x9w70x1x2x3x4x5x6x7x8x9w",
   "80x1x2x3x4x5x6x7x8x9w90x1x2x3x4x5x6x7v501x2x3x4x5x6x7x8x9w10x1x2x3x4x5x6x7x8x9w20x1x2x3x4x5x6",
   "x7x8x9w30eMICAL HEARTbCHORbD WITH DOTbGER SYMBOLcLEe WITH S INSIDEkUNDERBARcRY FACEcSTROM SIG",
   "NcUISHED FACEbKHbTcENNA WITH BARScICLOCKWISE CLOSED CIRCLE ARROWoONTOUR INTEGRALnDOWNWARDS AN",
   "D UPWARDS OPEN CIRCLE ARROWSnGAPPED CIRCLE ARROWnINTEGRATIONnOPEN CIRCLE ARROWnTOP SEMICIRCLE",
   " ARROWoRIANGLE-HEADED BOTTOM U-SHAPED ARROWzdLEFT U-SHAPED ARROWzdOPEN CIRCLE ARROWzdRIGHT U-",
   "SHAPED ARROWzdTOP U-SHAPED ARROWaPCbL FUNCTIONAL SYMBOL ALPHAza UNDERBARvBACKSLASH BARvCIRCLE",
   " BACKSLASHzcDIAERESISzcJOTzcSTARzeILEzcUNDERBARwOMMA BARvDEL DIAERESISzSTILEzTILDEyTA STILEzb",
   "UNDERBARwIAMOND UNDERBARwOWN CARET TILDEzaSHOE STILEzaTACK JOTzfUNDERBARzWARDS VANEvEPSILON U",
   "NDERBARvGREATER-THAN DIAERESISvI-BEAMwOTAz UNDERBARvJOT DIAERESISzUNDERBARvLEFT SHOE STILEzWA",
   "RDS VANEvOMEGAza UNDERBARvQUADz BACKSLASHzaCIRCLEzbOLONzaDELzdTAzbIAMONDzcVIDEzbOWN CARETzeWA",
   "RDS ARROWzaEQUALzaGREATER-THANzaJOTzaLEFTWARDS ARROWzcSS-THANzaNOT EQUALzaQUESTIONzaRIGHTWARD",
   "S ARROWzaSLASHzaUP CARETzcWARDS ARROWxOTE QUADzbUNDERBARvRHOwIGHTWARDS VANEvSEMICOLON UNDERBA",
   "RwLASH BARwQUISH QUADwTAR DIAERESISxILE TILDEvTILDE DIAERESISvUP CARET TILDEySHOE JOTyTACK DI",
   "AERESISzdJOTzdOVERBARxWARDS VANEvZILDEbOLLONcSTROPHEbPLICATION PROGRAM COMMANDcROACHES THE LI",
   "MITeXIMATELY BUT NOT ACTUALLY EQUAL TOnEQUAL OR EQUAL TOtTOv OR THE IMAGE OFaQUARIUSaRABIC BA",
   "SELINE ROUND DOTgCOMMAhURLY DAMMArTANmFATHArTANmKASRArTANgDAMMAl ISOLATED FORMmMEDIAL FORMmWI",
   "TH DOTlTANo ISOLATED FORMiTE SEPARATORhECIMAL SEPARATORhISPUTED END OF AYAHhOUBLE RIGHT ARROW",
   "HEAD ABOVEzi WITH DOTmD MADDAgEMPTY CENTRE HIGH STOPtLOW STOPhND OF AYAHnTEXT MARKgFATHAl ISO",
   "LATED FORMmMEDIAL FORMmWITH DOT ABOVErRINGrTWO DOTSlTANo ISOLATED FORMhIVE POINTED STARhOOTNO",
   "TE MARKERhULL STOPgHALF MADDA OVER MADDAiMZA ABOVEmBELOWgINVERTED DAMMAgKASRAl ISOLATED FORMm",
   "MEDIAL FORMmWITH DOT BELOWlTANo ISOLATED FORMgLARGE CIRCLE BELOWmROUND DOT ABOVEwBELOWwINSIDE",
   " CIRCLE BELOWhEFT ARROWHEAD ABOVEvBELOWiTTER AEoFRICAN FEHvNOONvQAFy WITH THREE DOTS ABOVEoIN",
   "q FINAL FORMrINITIAL FORMsSOLATED FORMrMEDIAL FORMrWITH THREE DOTS ABOVEzhBELOWzhPOINTING DOW",
   "NWARDS ABOVExWO DOTS ABOVEzfVERTICALLY ABOVEoLEFr FINAL FORMsISOLATED FORMsMAKSURAz FINAL FOR",
   "MzaISOLATED FORMsWASLAx FINAL FORMyISOLATED FORMtITH ATTACHED BOTTOM RIGHT KASRAzy AND DOT AB",
   "OVEzzdLEFT RINGzgFATHAzgKASRAzgLEFT HAMZAzlROUND DOTzgRIGHT HAMZAzmROUND DOTzhOUND DOT ABOVEz",
   "qBELOWzgTOP RIGHT FATHAzv AND DOT ABOVEzzaLEFT RINGxDOT ABOVExEXTENDED ARABIC-INDIC DIGIT THR",
   "EE ABOVEzzaWO ABOVExHAMZA ABOVEzi FINAL FORMzjISOLATED FORMzdBELOWzi FINAL FORMzjISOLATED FOR",
   "MxLEFT MIDDLE STROKExMADDA ABOVEzi FINAL FORMzjISOLATED FORMxRIGHT MIDDLE STROKEzq AND DOT AB",
   "OVEzvLEFT RINGxWAVY HAMZA ABOVEziBELOWnBEEHr FINAL FORMsINITIAL FORMtSOLATED FORMsMEDIAL FORM",
   "pHq FINAL FORMrINITIAL FORMsSOLATED FORMrMEDIAL FORMrWITH DOT BELOW AND THREE DOTS ABOVEwHAMZ",
   "A ABOVEwINVERTED SMALL V BELOWwSMALL MEEM ABOVEzcVzd BELOWwTHREE DOTS HORIZONTALLY BELOWzhPOI",
   "NTING UPWARDS BELOWzzd AND TWO DOTS ABOVExWO DOTS BELOW AND DOT ABOVEqEHs FINAL FORMtINITIAL ",
   "FORMuSOLATED FORMtMEDIAL FORMnDADq FINAL FORMrINITIAL FORMsSOLATED FORMrMEDIAL FORMrWITH DOT ",
   "BELOWpHALs FINAL FORMtISOLATED FORMpLq FINAL FORMrISOLATED FORMrWITH DOT BELOWzf AND SMALL TA",
   "HwFOUR DOTS ABOVEwINVERTED SMALL V BELOWzfVwRINGwTHREE DOTS ABOVE DOWNWARDSzhBELOWxWO DOTS VE",
   "RTICALLY BELOW AND SMALL TAHoDAHALt FINAL FORMuISOLATED FORMqLr FINAL FORMsISOLATED FORMoOTLE",
   "SS BEHvFEHvQAFoULq FINAL FORMrISOLATED FORMoYEHr FINAL FORMsINITIAL FORMtSOLATED FORMsMEDIAL ",
   "FORMnEo FINAL FORMpINITIAL FORMqSOLATED FORMpMEDIAL FORMnFARSI YEHw FINAL FORMxINITIAL FORMyS",
   "OLATED FORMxMEDIAL FORMxWITH EXTENDED ARABIC-INDIC DIGIT FOUR BELOWzzeTHREE ABOVEzzfWO ABOVEz",
   "cINVERTED VzcTHREE DOTS ABOVEzdWO DOTS ABOVEoEHq FINAL FORMrINITIAL FORMsSOLATED FORMrMEDIAL ",
   "FORMrWITH DOT BELOWzf AND THREE DOTS ABOVEzaMOVED BELOWwTHREE DOTS BELOWzhPOINTING UPWARDS BE",
   "LOWxWO DOTS BELOWnGAFq FINAL FORMrINITIAL FORMsSOLATED FORMrMEDIAL FORMrWITH INVERTED STROKEw",
   "RINGwTHREE DOTS ABOVExWO DOTS BELOWoHAINs FINAL FORMtINITIAL FORMuSOLATED FORMtMEDIAL FORMtWI",
   "TH DOT BELOWyTHREE DOTS ABOVEoRAFoUEHr FINAL FORMsINITIAL FORMtSOLATED FORMsMEDIAL FORMnHAHq ",
   "FINAL FORMrINITIAL FORMsSOLATED FORMrMEDIAL FORMrWITH EXTENDED ARABIC-INDIC DIGIT FOUR BELOWw",
   "HAMZA ABOVEwINVERTED SMALL V BELOWwSMALL ARABIC LETTER TAH ABOVEzvND TWO DOTSzuBELOWwTHREE DO",
   "TS ABOVEzhPOINTING UPWARDS BELOWxWO DOTS ABOVEzfVERTICAL ABOVEpMZAs ISOLATED FORMoEHq DOACHAS",
   "HMEEzc FINAL FORMzdINITIAL FORMzeSOLATED FORMzdMEDIAL FORMrFINAL FORMrGOALv FINAL FORMwINITIA",
   "L FORMxSOLATED FORMwMEDIAL FORMwWITH HAMZA ABOVErINITIAL FORMsSOLATED FORMrMEDIAL FORMrWITH I",
   "NVERTED VwYEH ABOVEzf FINAL FORMzgISOLATED FORMoIGH HAMZAx ALEFyWAWyYEHnJEEMr FINAL FORMsINIT",
   "IAL FORMtSOLATED FORMsMEDIAL FORMsWITH THREE DOTS ABOVEziBELOWyWO DOTS ABOVEpHq FINAL FORMrIS",
   "OLATED FORMnKAFq FINAL FORMrINITIAL FORMsSOLATED FORMrMEDIAL FORMrWITH DOT ABOVEzaBELOWwRINGw",
   "THREE DOTS BELOWxWO DOTS ABOVEpSHMIRI YEHoEHEHs FINAL FORMtINITIAL FORMuSOLATED FORMtMEDIAL F",
   "ORMtWITH DOT ABOVEySMALL VyTHREE DOTS ABOVEzjBELOWzjPOINTING UPWARDS BELOWzWO DOTS ABOVEzhVER",
   "TICALLY BELOWoHAHr FINAL FORMsINITIAL FORMtSOLATED FORMsMEDIAL FORMoIRGHIZ OEx FINAL FORMyISO",
   "LATED FORMvYUx FINAL FORMyISOLATED FORMnLAMq FINAL FORMrINITIAL FORMsSOLATED FORMrMEDIAL FORM",
   "rWITH BARwDOT ABOVEyUBLE BARwSMALL ARABIC LETTER TAH ABOVEzcVwTHREE DOTS ABOVEzhBELOWoOW ALEF",
   "nMARKoEEMr FINAL FORMsINITIAL FORMtSOLATED FORMsMEDIAL FORMsWITH DOT ABOVEzbBELOWxTHREE DOTS ",
   "ABOVEnNGp FINAL FORMqINITIAL FORMrSOLATED FORMqMEDIAL FORMpOEHs FINAL FORMtINITIAL FORMuSOLAT",
   "ED FORMtMEDIAL FORMoOONr FINAL FORMsGHUNNAy FINAL FORMzISOLATED FORMsINITIAL FORMtSOLATED FOR",
   "MsMEDIAL FORMsWITH DOT BELOWxINVERTED SMALL VxRINGxSMALL TAHzdVxTHREE DOTS ABOVEyWO DOTS BELO",
   "WoYEHr FINAL FORMsINITIAL FORMtSOLATED FORMsMEDIAL FORMnOEp FINAL FORMqISOLATED FORMnPEHq FIN",
   "AL FORMrINITIAL FORMsSOLATED FORMrMEDIAL FORMrWITH SMALL MEEM ABOVEzcVqEHs FINAL FORMtINITIAL",
   " FORMuSOLATED FORMtMEDIAL FORMnQAFq FINAL FORMrINITIAL FORMsSOLATED FORMrMEDIAL FORMrWITH DOT",
   " ABOVEzaBELOWzf AND NO DOTS ABOVEwTHREE DOTS ABOVEnREHq FINAL FORMrISOLATED FORMrWITH DOT BEL",
   "OWzf AND DOT ABOVEwFOUR DOTS ABOVEwHAMZA ABOVEwINVERTED VwLOOPwRINGwSMALL ARABIC LETTER TAH A",
   "ND TWO DOTSzcNOON ABOVEzcVzd BELOWxTROKEwTWO DOTS ABOVEzfVERTICALLY ABOVEoNOONs FINAL FORMtIN",
   "ITIAL FORMuSOLATED FORMtMEDIAL FORMoOHINGYA YEHoREHr FINAL FORMsISOLATED FORMnSADq FINAL FORM",
   "rINITIAL FORMsSOLATED FORMrMEDIAL FORMrWITH THREE DOTS ABOVEzhBELOWxWO DOTS BELOWoEENr FINAL ",
   "FORMsINITIAL FORMtSOLATED FORMsMEDIAL FORMsWITH DOT BELOW AND DOT ABOVExEXTENDED ARABIC-INDIC",
   " DIGIT FOUR ABOVExFOUR DOTS ABOVExINVERTED VxSMALL ARABIC LETTER TAH AND TWO DOTSxTHREE DOTS ",
   "BELOWzn AND THREE DOTS ABOVEyWO DOTS VERTICALLY ABOVEoHEENs FINAL FORMtINITIAL FORMuSOLATED F",
   "ORMtMEDIAL FORMtWITH DOT BELOWoTRAIGHT WAWoUPERSCRIPT ALEFoWASH KAFnTAHq FINAL FORMrINITIAL F",
   "ORMsSOLATED FORMrMEDIAL FORMrWITH DOT BELOWwTHREE DOTS ABOVEzhBELOWxWO DOTS ABOVEoCHEHs FINAL",
   " FORMtINITIAL FORMuSOLATED FORMtMEDIAL FORMtWITH DOT ABOVEySMALL VsEHu FINAL FORMvINITIAL FOR",
   "MwSOLATED FORMvMEDIAL FORMoEHq FINAL FORMrINITIAL FORMsSOLATED FORMrMARBUTAy FINAL FORMzGOALz",
   "ISOLATED FORMsEDIAL FORMrWITH RINGwSMALL TEH ABOVEzcVwTHREE DOTS ABOVE DOWNWARDSqEHs FINAL FO",
   "RMtINITIAL FORMuSOLATED FORMtMEDIAL FORMoHALr FINAL FORMsISOLATED FORMpEHr FINAL FORMsINITIAL",
   " FORMtSOLATED FORMsMEDIAL FORMpIN YEHoTEHr FINAL FORMsINITIAL FORMtSOLATED FORMsMEDIAL FORMsW",
   "ITH SMALL VrEHt FINAL FORMuINITIAL FORMvSOLATED FORMuMEDIAL FORMnUo FINAL FORMpISOLATED FORMp",
   "WITH HAMZA ABOVEzf ISOLATED FORMoIGHUR KAZAKH KIRGHIZ ALEF MAKSURA INITIAL FORMzwMEDIAL FORMn",
   "VEp FINAL FORMqISOLATED FORMpHq FINAL FORMrINITIAL FORMsSOLATED FORMrMEDIAL FORMnWAWq FINAL F",
   "ORMrISOLATED FORMrWITH DOT ABOVEzaWITHINwEXTENDED ARABIC-INDIC DIGIT THREE ABOVEzzWO ABOVEwHA",
   "MZA ABOVEzh FINAL FORMziISOLATED FORMwRINGwTWO DOTS ABOVEnYEHq BARREEx FINAL FORMyISOLATED FO",
   "RMyWITH EXTENDED ARABIC-INDIC DIGIT THREE ABOVEzzgWO ABOVEzdHAMZA ABOVEzo FINAL FORMzpISOLATE",
   "D FORMrFINAL FORMrINITIAL FORMsSOLATED FORMrMEDIAL FORMrWITH HAMZA ABOVEzh FINAL FORMziINITIA",
   "L FORMzjSOLATED FORMziMEDIAL FORMwSMALL VwTAILxHREE DOTS BELOWxWO DOTS BELOW AND DOT ABOVEzpH",
   "AMZA ABOVEzpSMALL NOON ABOVEoUp FINAL FORMqISOLATED FORMnZAHq FINAL FORMrINITIAL FORMsSOLATED",
   " FORMrMEDIAL FORMpINr FINAL FORMsISOLATED FORMsWITH INVERTED V ABOVEhIGATURE AIN WITH ALEF MA",
   "KSURA FINAL FORMzlISOLATED FORMyJEEM INITIAL FORMzeSOLATED FORMzdWITH MEEM FINAL FORMznINITIA",
   "L FORMyMEEM INITIAL FORMzeSOLATED FORMzdWITH ALEF MAKSURA FINAL FORMziMEEM FINAL FORMznINITIA",
   "L FORMziYEH FINAL FORMyYEH FINAL FORMzcISOLATED FORMqKBAR ISOLATED FORMqLAYHAA AS-SALAAMuE IS",
   "OLATED FORMuI AS-SALAAMzeTU WAS-SALAAMvM AS-SALAAMwAA AS-SALAAMrEF MAKSURA WITH SUPERSCRIPT A",
   "LEF FINAL FORMzyISOLATED FORMuWITH FATHATAN FINAL FORMziISOLATED FORMrLAH ISOLATED FORMqZZA W",
   "A JALLpBEH WITH ALEF MAKSURA FINAL FORMzlISOLATED FORMyHAH INITIAL FORMzdSOLATED FORMzcWITH Y",
   "EH FINAL FORMzEH INITIAL FORMzcMEDIAL FORMyJEEM INITIAL FORMzeSOLATED FORMyKHAH INITIAL FORMz",
   "eSOLATED FORMzdWITH YEH FINAL FORMyMEEM FINAL FORMzdINITIAL FORMzeSOLATED FORMzdMEDIAL FORMyN",
   "OON FINAL FORMyREH FINAL FORMyYEH FINAL FORMzcISOLATED FORMyZAIN FINAL FORMqISMILLAH AR-RAHMA",
   "N AR-RAHEEMpDAD WITH ALEF MAKSURA FINAL FORMzlISOLATED FORMyHAH INITIAL FORMzdSOLATED FORMzcW",
   "ITH ALEF MAKSURA FINAL FORMzhYEH FINAL FORMyJEEM INITIAL FORMzeSOLATED FORMyKHAH INITIAL FORM",
   "zeSOLATED FORMzdWITH MEEM FINAL FORMznINITIAL FORMyMEEM INITIAL FORMzeSOLATED FORMyREH FINAL ",
   "FORMzcISOLATED FORMyYEH FINAL FORMzcISOLATED FORMpFEH WITH ALEF MAKSURA FINAL FORMzlISOLATED ",
   "FORMyHAH INITIAL FORMzdSOLATED FORMyJEEM INITIAL FORMzeSOLATED FORMyKHAH INITIAL FORMzeSOLATE",
   "D FORMzdWITH MEEM FINAL FORMznINITIAL FORMyMEEM INITIAL FORMzeSOLATED FORMzdWITH YEH FINAL FO",
   "RMyYEH FINAL FORMzcISOLATED FORMpGHAIN WITH ALEF MAKSURA FINAL FORMznISOLATED FORMzaJEEM INIT",
   "IAL FORMzgSOLATED FORMzaMEEM INITIAL FORMzgSOLATED FORMzfWITH ALEF MAKSURA FINAL FORMzkMEEM F",
   "INAL FORMzkYEH FINAL FORMzaYEH FINAL FORMzeISOLATED FORMpHAH WITH ALEF MAKSURA FINAL FORMzlIS",
   "OLATED FORMyJEEM INITIAL FORMzeSOLATED FORMzdWITH YEH FINAL FORMyMEEM INITIAL FORMzeSOLATED F",
   "ORMzdWITH ALEF MAKSURA FINAL FORMziYEH FINAL FORMyYEH FINAL FORMzcISOLATED FORMqEH WITH ALEF ",
   "MAKSURA ISOLATED FORMyJEEM INITIAL FORMzeSOLATED FORMyMEEM INITIAL FORMzeSOLATED FORMzdWITH J",
   "EEM INITIAL FORMziMEEM INITIAL FORMySUPERSCRIPT ALEF INITIAL FORMyYEH ISOLATED FORMpJALLAJALA",
   "LOUHOUqEEM WITH ALEF MAKSURA FINAL FORMzmISOLATED FORMzHAH INITIAL FORMzeSOLATED FORMzdWITH A",
   "LEF MAKSURA FINAL FORMziYEH FINAL FORMzMEEM INITIAL FORMzfSOLATED FORMzeWITH ALEF MAKSURA FIN",
   "AL FORMzjHAH FINAL FORMznINITIAL FORMzjYEH FINAL FORMzYEH FINAL FORMzdISOLATED FORMpKAF WITH ",
   "ALEF FINAL FORMzdISOLATED FORMzdMAKSURA FINAL FORMzlISOLATED FORMyHAH INITIAL FORMzdSOLATED F",
   "ORMyJEEM INITIAL FORMzeSOLATED FORMyKHAH INITIAL FORMzeSOLATED FORMyLAM FINAL FORMzcINITIAL F",
   "ORMzdSOLATED FORMzcMEDIAL FORMyMEEM FINAL FORMzdINITIAL FORMzeSOLATED FORMzdMEDIAL FORMzdWITH",
   " MEEM FINAL FORMznINITIAL FORMziYEH FINAL FORMyYEH FINAL FORMzcISOLATED FORMqHAH WITH ALEF MA",
   "KSURA FINAL FORMzmISOLATED FORMzHAH ISOLATED FORMzJEEM INITIAL FORMzfSOLATED FORMzMEEM INITIA",
   "L FORMzfSOLATED FORMzYEH FINAL FORMzdISOLATED FORMpLAM WITH ALEF FINAL FORMzdISOLATED FORMzdM",
   "AKSURA FINAL FORMzlISOLATED FORMzdWITH HAMZA ABOVE FINAL FORMzuISOLATED FORMzoBELOW FINAL FOR",
   "MzuISOLATED FORMziMADDA ABOVE FINAL FORMzuISOLATED FORMyHAH INITIAL FORMzdSOLATED FORMzcWITH ",
   "ALEF MAKSURA FINAL FORMzhMEEM FINAL FORMzmINITIAL FORMzhYEH FINAL FORMzEH INITIAL FORMyJEEM I",
   "NITIAL FORMzeSOLATED FORMzdWITH JEEM FINAL FORMznINITIAL FORMziMEEM FINAL FORMznINITIAL FORMz",
   "iYEH FINAL FORMyKHAH INITIAL FORMzeSOLATED FORMzdWITH MEEM FINAL FORMznINITIAL FORMyMEEM FINA",
   "L FORMzdINITIAL FORMzeSOLATED FORMzdMEDIAL FORMzdWITH HAH FINAL FORMzmINITIAL FORMziYEH FINAL",
   " FORMyYEH FINAL FORMzcISOLATED FORMpMEEM WITH ALEF FINAL FORMzeMAKSURA ISOLATED FORMzHAH INIT",
   "IAL FORMzeSOLATED FORMzdWITH JEEM INITIAL FORMziMEEM INITIAL FORMziYEH FINAL FORMzJEEM INITIA",
   "L FORMzfSOLATED FORMzeWITH HAH INITIAL FORMzjKHAH INITIAL FORMzjMEEM INITIAL FORMzjYEH FINAL ",
   "FORMzKHAH INITIAL FORMzfSOLATED FORMzeWITH JEEM INITIAL FORMzjMEEM INITIAL FORMzjYEH FINAL FO",
   "RMzMEEM FINAL FORMzeINITIAL FORMzfSOLATED FORMzeWITH YEH FINAL FORMzYEH ISOLATED FORMqOHAMMAD",
   " ISOLATED FORMpNOON WITH ALEF MAKSURA FINAL FORMzmISOLATED FORMzHAH INITIAL FORMzeSOLATED FOR",
   "MzdWITH ALEF MAKSURA FINAL FORMziMEEM INITIAL FORMziYEH FINAL FORMzaEH INITIAL FORMzdMEDIAL F",
   "ORMzJEEM INITIAL FORMzfSOLATED FORMzeWITH ALEF MAKSURA FINAL FORMzjHAH FINAL FORMznINITIAL FO",
   "RMzjMEEM FINAL FORMzoINITIAL FORMzjYEH FINAL FORMzKHAH INITIAL FORMzfSOLATED FORMzMEEM FINAL ",
   "FORMzeINITIAL FORMzfSOLATED FORMzeMEDIAL FORMzeWITH ALEF MAKSURA FINAL FORMzjYEH FINAL FORMzN",
   "OON FINAL FORMzREH FINAL FORMzYEH FINAL FORMzdISOLATED FORMzZAIN FINAL FORMpQAF WITH ALEF MAK",
   "SURA FINAL FORMzlISOLATED FORMyHAH INITIAL FORMzdSOLATED FORMyMEEM INITIAL FORMzeSOLATED FORM",
   "zdWITH HAH FINAL FORMzmINITIAL FORMziMEEM FINAL FORMziYEH FINAL FORMyYEH FINAL FORMzcISOLATED",
   " FORMrLA USED AS KORANIC STOP SIGN ISOLATED FORMqUDDISA SIRRAHpRADI ALLAAHU ANHzfAAzfUMzhAAzg",
   "NNArHIMAHU ALLAAHxM ALLAAHrSOUL ISOLATED FORMqEH WITH SUPERSCRIPT ALEF ISOLATED FORMpSAD WITH",
   " ALEF MAKSURA FINAL FORMzlISOLATED FORMyHAH INITIAL FORMzdSOLATED FORMzcWITH HAH FINAL FORMzl",
   "INITIAL FORMzhYEH FINAL FORMyKHAH INITIAL FORMyMEEM INITIAL FORMzeSOLATED FORMzdWITH MEEM FIN",
   "AL FORMznINITIAL FORMyREH FINAL FORMzcISOLATED FORMyYEH FINAL FORMzcISOLATED FORMrLAAMUHU ALA",
   "YNAAtM ISOLATED FORMsLA ISOLATED FORMvUSED AS KORANIC STOP SIGN ISOLATED FORMuLLAAHU ALAYHI W",
   "A-AALIHxHOU ALAYHE WASALLAMyU ALAYHI WAAALIHEE WA-SALLAMqEEN WITH ALEF MAKSURA FINAL FORMzmIS",
   "OLATED FORMzHAH INITIAL FORMzeSOLATED FORMzdMEDIAL FORMzdWITH JEEM INITIAL FORMzaEH INITIAL F",
   "ORMzdMEDIAL FORMzJEEM INITIAL FORMzfSOLATED FORMzeMEDIAL FORMzeWITH ALEF MAKSURA FINAL FORMzj",
   "HAH INITIAL FORMzKHAH INITIAL FORMzfSOLATED FORMzeMEDIAL FORMzeWITH ALEF MAKSURA FINAL FORMzj",
   "YEH FINAL FORMzMEEM INITIAL FORMzfSOLATED FORMzeMEDIAL FORMzeWITH HAH FINAL FORMznINITIAL FOR",
   "MzjJEEM INITIAL FORMzjMEEM FINAL FORMzoINITIAL FORMzREH FINAL FORMzdISOLATED FORMzYEH FINAL F",
   "ORMzdISOLATED FORMqHADDA WITH DAMMA ISOLATED FORMzhMEDIAL FORMzgTAN ISOLATED FORMzbFATHA ISOL",
   "ATED FORMzhMEDIAL FORMzbKASRA ISOLATED FORMzhMEDIAL FORMzgTAN ISOLATED FORMzbSUPERSCRIPT ALEF",
   " ISOLATED FORMrEEN WITH ALEF MAKSURA FINAL FORMznISOLATED FORMzaHAH FINAL FORMzeINITIAL FORMz",
   "fSOLATED FORMzeMEDIAL FORMzeWITH MEEM FINAL FORMzoINITIAL FORMzjYEH FINAL FORMzbEH INITIAL FO",
   "RMzeMEDIAL FORMzaJEEM FINAL FORMzfINITIAL FORMzgSOLATED FORMzfMEDIAL FORMzfWITH YEH FINAL FOR",
   "MzaKHAH FINAL FORMzfINITIAL FORMzgSOLATED FORMzfMEDIAL FORMzaMEEM FINAL FORMzfINITIAL FORMzgS",
   "OLATED FORMzfMEDIAL FORMzfWITH KHAH FINAL FORMzpINITIAL FORMzkMEEM FINAL FORMzpINITIAL FORMza",
   "REH FINAL FORMzeISOLATED FORMzaYEH FINAL FORMzeISOLATED FORMqUBHAANAHU WA TAAALAApTABAARAKA W",
   "A-TAAALAArH WITH ALEF MAKSURA FINAL FORMzlISOLATED FORMyHAH INITIAL FORMzdSOLATED FORMyMEEM I",
   "NITIAL FORMzeSOLATED FORMzdMEDIAL FORMzdWITH HAH FINAL FORMzmINITIAL FORMziMEEM INITIAL FORMz",
   "iYEH FINAL FORMyYEH FINAL FORMzcISOLATED FORMqEH WITH ALEF MAKSURA FINAL FORMzlISOLATED FORMy",
   "HAH INITIAL FORMzdSOLATED FORMzcWITH JEEM FINAL FORMzmINITIAL FORMzhMEEM INITIAL FORMzEH INIT",
   "IAL FORMzcMEDIAL FORMyJEEM INITIAL FORMzeSOLATED FORMzdWITH ALEF MAKSURA FINAL FORMziMEEM INI",
   "TIAL FORMziYEH FINAL FORMyKHAH INITIAL FORMzeSOLATED FORMzdWITH ALEF MAKSURA FINAL FORMziMEEM",
   " INITIAL FORMziYEH FINAL FORMyMEEM FINAL FORMzdINITIAL FORMzeSOLATED FORMzdMEDIAL FORMzdWITH ",
   "ALEF MAKSURA FINAL FORMziHAH INITIAL FORMziJEEM INITIAL FORMziKHAH INITIAL FORMziYEH FINAL FO",
   "RMyNOON FINAL FORMyREH FINAL FORMyYEH FINAL FORMzcISOLATED FORMyZAIN FINAL FORMqHAL WITH SUPE",
   "RSCRIPT ALEF ISOLATED FORMrEH WITH ALEF MAKSURA FINAL FORMzmISOLATED FORMzHEH MEDIAL FORMzJEE",
   "M ISOLATED FORMzMEEM FINAL FORMzeINITIAL FORMzfSOLATED FORMzeMEDIAL FORMzNOON FINAL FORMzREH ",
   "FINAL FORMzYEH FINAL FORMzdISOLATED FORMzZAIN FINAL FORMpUIGHUR KIRGHIZ YEH WITH HAMZA ABOVE ",
   "WITH ALEF MAKSURA FINAL FORMzzrINITIAL FORMzzsSOLATED FORMpWASALLAM ISOLATED FORMpYEH WITH AL",
   "EF MAKSURA FINAL FORMzlISOLATED FORMyHAH INITIAL FORMzdSOLATED FORMzcWITH YEH FINAL FORMzaMZA",
   " ABOVE WITH AE FINAL FORMzsISOLATED FORMzqLEF FINAL FORMzuISOLATED FORMzuMAKSURA FINAL FORMzz",
   "cISOLATED FORMzpE FINAL FORMzrINITIAL FORMzsSOLATED FORMzpHAH INITIAL FORMzuSOLATED FORMzqEH ",
   "INITIAL FORMztMEDIAL FORMzpJEEM INITIAL FORMzvSOLATED FORMzpKHAH INITIAL FORMzpMEEM FINAL FOR",
   "MzuINITIAL FORMzvSOLATED FORMzuMEDIAL FORMzpNOON FINAL FORMzpOE FINAL FORMzsISOLATED FORMzpRE",
   "H FINAL FORMzpU FINAL FORMzrISOLATED FORMzpWAW FINAL FORMztISOLATED FORMzpYEH FINAL FORMztISO",
   "LATED FORMzqU FINAL FORMzsISOLATED FORMzpZAIN FINAL FORMzEH INITIAL FORMzcMEDIAL FORMyJEEM IN",
   "ITIAL FORMzeSOLATED FORMzdWITH YEH FINAL FORMyKHAH INITIAL FORMzeSOLATED FORMyMEEM FINAL FORM",
   "zdINITIAL FORMzeSOLATED FORMzdMEDIAL FORMzdWITH MEEM FINAL FORMznINITIAL FORMziYEH FINAL FORM",
   "yNOON FINAL FORMyREH FINAL FORMyYEH FINAL FORMzcISOLATED FORMyZAIN FINAL FORMpZAH WITH MEEM I",
   "NITIAL FORMzeSOLATED FORMzdMEDIAL FORMgMADDA WAAJIBlH ABOVEiRK NOON GHUNNAlSIDEWAYS NOON GHUN",
   "NAiTHEMATICAL AINuLEFtBEHtDADvLuOTLESS BEHzbFEHzbNOONzbQAFvUBLE-STRUCK AINzhBEHzhDADzjLzhFEHz",
   "hGHAINzhHAHzhJEEMzhKHAHzhLAMzhMEEMzhNOONzhQAFzhREHzhSADziEENziHEENzhTAHziEHziHALzjEHzhWAWzhYE",
   "HzhZAHzjINtFEHtGHAINtHAHtINITIAL AINzbBEHzbDADzbFEHzbGHAINzbHAHzcEHzbJEEMzbKAFzcHAHzbLAMzbMEE",
   "MzbNOONzbQAFzbSADzcEENzcHEENzbTEHzcHEHzbYEHtJEEMtKAFuHAHtLAMuOOPED AINzbLEFzaBEHzaDADzcLzaFEH",
   "zaGHAINzaHAHzbEHzaJEEMzaKHAHzaLAMzaMEEMzaNOONzaQAFzaREHzaSADzbEENzbHEENzaTAHzbEHzbHALzcEHzaWA",
   "WzaYEHzaZAHzcINtMEEMtNOONtOPERATOR HAH WITH DALzcMEEM WITH HAH WITH TATWEELtQAFtREHtSADuEENuH",
   "EENuTRETCHED AINzdBEHzdDADzeOTLESS BEHzlFEHzdFEHzdGHAINzdHAHzeEHzdJEEMzdKAFzeHAHzdMEEMzdNOONz",
   "dQAFzdSADzeEENzeHEENzdTAHzeEHzeHEHzdYEHzdZAHtTAHvILED AINzaDADzbOTLESS NOONziQAFzaGHAINzaHAHz",
   "aJEEMzaKHAHzaLAMzaNOONzaQAFzaSADzbEENzbHEENzaYEHuEHuHALvEHtWAWtYEHtZAHvINgNUMBER MARK ABOVEnS",
   "IGNgOPEN DAMMATANlFATHATANlKASRATANgPERCENT SIGNhIASTRE MARK ABOVEhLACE OF SAJDAHhOETIC VERSE",
   " SIGNiUND MARK ABOVEgQUESTION MARKgRAISED ROUND DOTiYhEVERSED DAMMAhIGHT ARROWHEAD ABOVEzb WI",
   "TH DOTwBELOWhOUNDED HIGH STOP WITH FILLED CENTREgSEMICOLONhHADDAm ISOLATED FORMnMEDIAL FORMhI",
   "GN ALAYHE ASSALLAMlMISRAlRADI ALLAHOU ANHUnHMATULLAH ALAYHElSAFHAnLLALLAHOU ALAYHE WASSALLAMn",
   "MVATnNAHmINDHI AMPERSANDsPOSTPOSITION MENlTAKHALLUShMALL DAMMAmFARSI YEHoTHAmHIGH AINrDOTLESS",
   " HEAD OF KHAHrFARSI YEHsOOTNOTE MARKERrJEEMrLAM ALEFsIGATURE ALEF WITH LAM WITH YEHzaQAF WITH",
   " LAM WITH ALEF MAKSURAzaSAD WITH LAM WITH ALEF MAKSURArMADDAsEEM INITIAL FORMxSOLATED FORMrNO",
   "ONv WITH KASRArQAFrROUNDED ZEROrSADsEENsIGN SAFHArTAHsHREE DOTSrUPRIGHT RECTANGULAR ZEROrWAWs",
   "ORD AL-JUZxN-NISFxR-RUBxS-SAJDAxTH-THALATHAwQIFwSAHyKTAwWAQFArYEHu BARREE WITH TWO DOTS BELOW",
   "rZAHtINmKASRAmLOW MEEMqNOON WITH KASRAqSEENqWAWrORD IMAALAwSHMAAMvTASHEELmWAWmYEHhTART OF RUB",
   " EL HIZBhUBSCRIPT ALEFiKUNl BELOWmISOLATED FORMmMEDIAL FORMiPERSCRIPT ALEF MOKHASSAShYMBOL DO",
   "T ABOVErBELOWpUBLE VERTICAL BAR BELOWnFOUR DOTS ABOVExBELOWnRINGnSMALL TAH ABOVExBELOWnTHREE ",
   "DOTS ABOVEyBELOWyPOINTING DOWNWARDS ABOVEzrBELOWoWO DOTS ABOVEwBELOWwVERTICALLY ABOVEzhBELOWn",
   "WASLA ABOVEgTAIL FRAGMENTiTWEELn WITH FATHATAN ABOVEtOVERSTRUCK HAMZAzeWAWtTWO DOTS BELOWhHOU",
   "SANDS SEPARATORhONE LOOP ABOVEqBELOWlONE DOT ABOVEtBELOWlTWO DOTS ABOVEuBELOWhRIPLE DOT PUNCT",
   "UATION MARKhURNED DAMMA BELOWgVERTICAL TAILhOWEL SIGN DOT BELOWrINVERTED SMALL V ABOVErSMALL ",
   "V ABOVEgWAVY HAMZA BELOWgZWARAKAYf-INDIC CUBE ROOTmDIGIT EIGHTsFIVEtOURsNINEsONEsSEVENtIXsTHR",
   "EEtWOsZEROmFOURTH ROOTmPER MILLE SIGNqTEN THOUSAND SIGNbCbIESbMENIAN ABBREVIATION MARKjPOSTRO",
   "PHEiCAPITAL LETTER AYBxBENxCAyHAzEHyOxDAxECHyHyTxFEHxGHADyIMxHOxINIxJAyHEHxKEHzNxLIWNxMENxNOW",
   "xOHxPEHyIWRxRAyEHxSEHyHAxTIWNyOxVEWyOxXEHxYIzWNxZAyHEjOMMAiDRAM SIGNiEMPHASIS MARKjXCLAMATION",
   " MARKiFULL STOPiHYPHENiMODIFIER LETTER LEFT HALF RINGiQUESTION MARKiSMALL LETTER AYBvBENvCAwH",
   "AxEHwOvDAvECHwHwTvFEHvGHADwIMvHOvINIvJAwHEHvKEHxNvLIWNvMENvNOWvOHvPEHwIWRvRAwEHvSEHwHAvTIWNwO",
   "wURNED AYBvVEWwOvXEHvYIx WITH STROKExWNvZAwHEpIGATURE ECH YIWNxMEN ECHzbINIzbNOWzbXEHxVEW NOW",
   "bROW POINTING DOWNWARDS THEN CURVING LEFTWARDSzlRIGHTWARDSoRIGHTWARDS THEN CURVING DOWNWARDSz",
   "mSOUTH WESTzmUPWARDSoUPWARDS THEN NORTH WESTeHEAD-SHAPED POINTERbTICULATED LORRYdST PALETTEaS",
   "CENDING NODEcIA SYMBOLbSERTIONbTERISKh OPERATORgMcONISHED FACEcRAEAdONOMICAL SYMBOL FOR URANU",
   "SbYMPTOTICALLY EQUAL TOaTHLETIC SHOEbOM SYMBOLaUBERGINEbSTRAL SIGNbTO RICKSHAWdMATED TELLER M",
   "ACHINEeOBILEaVESTAN ABBREVIATION MARKhLETTER ApAqNqOpEqEpNpOoBEpHEoCEoDEpHEoEpEoFEoGEpGEpHEoH",
   "EpMEoIpIoJEoKEoLEoMEoNEpGEqVEqYEpNEpYEoOpOoPEoREoSEpHEqYEpSHEoTEpHEpTEoUpUoVEoXEpVEpYEoYEpYEo",
   "ZEpHEbOCADOaXE"]

end Gloss.Text.CharName
