/-! The names of characters that begin with a letter from N to R, as pages. -/

namespace Gloss.Text.CharName

/-- The page of the letter N. -/
def pageN : List String :=
  ["N-ARY CIRCLED DOT OPERATORnPLUS OPERATORnTIMES OPERATORgOPRODUCTfINTERSECTIONfLOGICAL ANDnORf",
   "PRODUCTfSQUARE INTERSECTION OPERATORmUNION OPERATORgUMMATIONfTIMES OPERATORfUNIONk OPERATOR W",
   "ITH DOTzPLUSfWHITE VERTICAL BARaABATAEAN CRUCIFORM NUMBER FOURjLETTER ALEPHrYINqBETHqDALETHqF",
   "INAL ALEPHwBETHwHEwKAPHwLAMEDHwMEMwNUNwSHINwYODHqGIMELqHEsTHqKAPHqLAMEDHqMEMqNUNqPEqQOPHqRESH",
   "qSADHEsMEKHrHINqTAWrETHqWAWqYODHqZAYINjNUMBER FIVErOURqONEt HUNDREDqTENrHREErWENTYsOcLAbIL PO",
   "LISHcRA SIGNbKbME BADGEbNDdINAGARI HEADSTROKElLETTER AtAtItUsBAtHAsCAtHAsDAtDAuHAtHAsEsGAtHAs",
   "HAsItIsJAtHAsKAtHAsLAtLAsMAsNAtGAtNAtYAsOsPAtHAsRAtRAsSAtHAtSAsTAtHAtTAuHAsUtUsVAtOCALIC RzbR",
   "sYAlSIGN ANUSVARArVAGRAHAqSIDDHAMqVIRAMAsSARGAlVOWEL SIGN AAxIxUwEwIxIwOwPRISHTHAMATRA EwUxUw",
   "VOCALIC RzfRbRROW NO-BREAK SPACEbTIONAL DIGIT SHAPESiPARKbUSEATED FACEbZAR AMULETaBHbSPaECKTI",
   "EbGATED DOUBLE VERTICAL BAR DOUBLE RIGHT TURNSTILEeIVE ACKNOWLEDGEiCIRCLED DIGIT ZEROqLATIN C",
   "APITAL LETTER AzlBzlCzlDzlEzlFzlGzlHzlIzlJzlKzlLzlMzlNzlOzlPzlQzlRzlSzlTzlUzlVzlWzlXzlYzlZqNU",
   "MBER EIGHTEENyLEVENxFIFTEENyOURTEENxNINETEENxSEVENTEENyIXTEENxTHIRTEENyWELVEzaNTYqSQUAREqTRIA",
   "NGLEiDIAGONAL CROSSrDIAMONDrMIDDLE RIGHT TO LOWER CENTREiSQUARED ABqCROSS MARKqICqLATIN CAPIT",
   "AL LETTER AzlBzlCzlDzlEzlFzlGzlHzlIzlJzlKzlLzlMzlNzlOzlPzlQzlRzlSzlTzlUzlVzlWzlXzlYzlZqPAqQUE",
   "STION MARKqSAqWCbITHER A SUBSET OF NOR EQUAL TOlPERSET OF NOR EQUAL TOiPPROXIMATELY NOR ACTUA",
   "LLY EQUAL TOhGREATER-THAN NOR EQUAL TOzbIVALENT TOyLESS-THANhLESS-THAN NOR EQUAL TOyIVALENT T",
   "OvGREATER-THANbLbPTUNEg FORM TWObRD FACEbSSUScT WITH EGGSdING DOLLSbUTERdRAL CHESS BISHOPt RO",
   "TATED NINETY DEGREESzcTWO HUNDRED SEVENTY DEGREESnEQUIHOPPERx ROTATED NINETY DEGREESnKINGr RO",
   "TATED NINETY DEGREESzaTWO HUNDRED SEVENTY DEGREESoNIGHTt ROTATED FORTY-FIVE DEGREESzcNINETY D",
   "EGREESzcONE HUNDRED THIRTY-FIVE DEGREESzcTHREE HUNDRED FIFTEEN DEGREESzdWO HUNDRED SEVENTY DE",
   "GREESzoTWENTY-FIVE DEGREESnPAWNr ROTATED NINETY DEGREESzaTWO HUNDRED SEVENTY DEGREESnQUEENs R",
   "OTATED NINETY DEGREESzbTWO HUNDRED SEVENTY DEGREESnROOKr ROTATED NINETY DEGREESzaTWO HUNDRED ",
   "SEVENTY DEGREESnTURNED BISHOPuKINGvNIGHTuPAWNuQUEENuROOKhFACEbW LINEdMOON SYMBOLiWITH FACEdSH",
   "EQEL SIGNdTAI LUE DIGIT EIGHTrFIVEsOURrNINErONErSEVENsIXrTHREEsWOrZEROlLETTER FINAL ByDyKyMyN",
   "zGyVsHIGH BAxDAxFAxHAxKAyVAxLAxMAxNAyGAxPAyHAxQAxSAyUAxTAyHAySAxVAxXAyVAxYAsLOW BAwDAwFAwHAwK",
   "AxVAwLAwMAwNAxGAwPAxHAwQAwSAxUAwTAxHAxSAwVAwXAxVAwYAlSIGN LAEtVlTHAM DIGIT ONEmONE MARK-1v2lV",
   "OWEL SIGN AAyYxExYwEwIIxYwOxAyYxYwUxEyYxUxYwVOWEL SHORTENERcA ABBREVIATION SIGNeCOMMAeDANDAfI",
   "GIT EIGHTkFIVElOURkNINEkONEkSEVENlIXkTHREElWOkZEROfOUBLE COMMAlDANDAeGAP FILLEReINSERTION SIG",
   "NeLETTER AmAmImUlBAmHAlCAmHAlDAmDAnHAmHAlElGAmHAlHAlImIlJAmHAlKAmHAlLAmHAlMAmHAlNAmGAnHAmHAmN",
   "AmYAnHAlOlPAmHAlRAmHAlSAmHAmSAlTAmHAmTAnHAlUmUlVEDIC ANUSVARAmOCALIC LuLtRuRlWAlYAeOMePLACEHO",
   "LDER MARKeSANDHI MARKfIDDHIgGN ANUSVARAkVAGRAHAjCANDRABINDUjFINAL ANUSVARAjJIHVAMULIYAjNUKTAj",
   "UPADHMANIYAjVIRAMAlSARGAeVOWEL SIGN AAqIqUpEpIqIpOpUqUpVOCALIC LyLxRyRcLINE LEFThRIGHTcSPAPER",
   "bXT LINEePAGEaIGHT WITH STARSbNJAaKO COMBINING DOUBLE DOT ABOVEnLONG DESCENDING TONEsHIGH TON",
   "EsLOW TONEsRISING TONEnNASALIZATION MARKnSHORT HIGH TONEtLOW TONEtRISING TONEgMAdDANTAYALANeI",
   "GIT EIGHTjFIVEkOURjNINEjONEjSEVENkIXjTHREEkWOjZEROeOROME SIGNdEXCLAMATION MARKdHIGH TONE APOS",
   "TROPHEdLAJANYALANeETTER AkBAkCHAkDAmGBASINNAkElEkFAkGBAkHAkIkJAlONA CHApJApRAkKAkLAkMAkNlAm W",
   "OLOSOlYAn WOLOSOkOlOkPAkRAlRAkSAkTAkUkWAkYAeOW TONE APOSTROPHEdSYMBOL GBAKURUNENkOO DENNENdTA",
   "MAN SIGNaLaNBSPaO BICYCLESdREAK HEREcENTRYh SIGNcMOBILE PHONEScONE UNDER EIGHTEEN SYMBOLcPEDE",
   "STRIANSdIRACYcSMOKING SYMBOLb-BREAK SPACEbMINAL DIGIT SHAPESdSMA SIGNbN-BREAKING HYPHENdPOTAB",
   "LE WATER SYMBOLcFORKINGbRcDIC MARK SIGNcMAL SUBGROUP OFr OR EQUAL TOcTH EAST AND SOUTH WEST A",
   "RROWlRROWp AND SOUTH EAST ARROWqCROSSING NORTH WEST ARROWzSOUTH EAST ARROWqWITH HOOKkBLACK AR",
   "ROWkDOUBLE ARROWkPOINTING BUDtLEAFtVINE LEAFkSANS-SERIF ARROWkTRIANGLE-HEADED ARROWzf TO BARk",
   "WHITE ARROWfINDIC FRACTION ONE EIGHTHyHALFyQUARTERySIXTEENTHuTHREE QUARTERSzaSIXTEENTHSlPLACE",
   "HOLDER MARKlQUANTITY MARKoRTER MARKlRUPEE MARKfWEST AND SOUTH EAST ARROWlRROWp AND NORTH EAST",
   " ARROWqCROSSING NORTH EAST ARROWqTO CORNERtLONG BARqWITH HOOKkBLACK ARROWkDOUBLE ARROWkPOINTI",
   "NG BUDtLEAFtVINE LEAFkSANS-SERIF ARROWkTRIANGLE-HEADED ARROWzf TO BARkWHITE ARROWeEAST-POINTI",
   "NG AIRPLANEbSEbT A SUBSET OFhPERSET OFeLMOST EQUAL TOeN ELEMENT OFeSYMPTOTICALLY EQUAL TOdCHE",
   "CK MARKdEQUAL TOgIVALENT TOdGREATER-THANdIDENTICAL TOdLESS-THANdNORMAL SUBGROUP OFv OR EQUAL ",
   "TOdPARALLEL TOdSIGNeQUARE IMAGE OF OR EQUAL TOkORIGINAL OF OR EQUAL TOdTILDEeRUEcCHED LEFT SE",
   "MICIRCLE WITH THREE DOTSiOWER RIGHT-SHADOWED WHITE RIGHTWARDS ARROWhRIGHT SEMICIRCLE WITH THR",
   "EE DOTShUPPER RIGHT-SHADOWED WHITE RIGHTWARDS ARROWcEd PADgGEdBOOKh WITH DECORATIVE COVERaULc",
   "LbMBER EIGHTEEN FULL STOPhLEVEN FULL STOPgFIFTEEN FULL STOPhOURTEEN FULL STOPgNINETEEN FULL S",
   "TOPgSEVENTEEN FULL STOPhIGNiXTEEN FULL STOPgTEN FULL STOPhHIRTEEN FULL STOPhWELVE FULL STOPjN",
   "TY FULL STOPcERO SIGNbSHU CHARACTER-1B170t1t2t3t4t5t6t7t8t9tAtBtCtDtEtFs80t1t2t3t4t5t6t7t8t9t",
   "AtBtCtDtEtFs90t1t2t3t4t5t6t7t8t9tAtBtCtDtEtFsA0t1t2t3t4t5t6t7t8t9tAtBtCtDtEtFsB0t1t2t3t4t5t6t",
   "7t8t9tAtBtCtDtEtFsC0t1t2t3t4t5t6t7t8t9tAtBtCtDtEtFsD0t1t2t3t4t5t6t7t8t9tAtBtCtDtEtFsE0t1t2t3t",
   "4t5t6t7t8t9tAtBtCtDtEtFsF0t1t2t3t4t5t6t7t8t9tAtBtCtDtEtFr200t1t2t3t4t5t6t7t8t9tAtBtCtDtEtFs10",
   "t1t2t3t4t5t6t7t8t9tAtBtCtDtEtFs20t1t2t3t4t5t6t7t8t9tAtBtCtDtEtFs30t1t2t3t4t5t6t7t8t9tAtBtCtDt",
   "EtFs40t1t2t3t4t5t6t7t8t9tAtBtCtDtEtFs50t1t2t3t4t5t6t7t8t9tAtBtCtDtEtFs60t1t2t3t4t5t6t7t8t9tAt",
   "BtCtDtEtFs70t1t2t3t4t5t6t7t8t9tAtBtCtDtEtFs80t1t2t3t4t5t6t7t8t9tAtBtCtDtEtFs90t1t2t3t4t5t6t7t",
   "8t9tAtBtCtDtEtFsA0t1t2t3t4t5t6t7t8t9tAtBtCtDtEtFsB0t1t2t3t4t5t6t7t8t9tAtBtCtDtEtFsC0t1t2t3t4t",
   "5t6t7t8t9tAtBtCtDtEtFsD0t1t2t3t4t5t6t7t8t9tAtBtCtDtEtFsE0t1t2t3t4t5t6t7t8t9tAtBtCtDtEtFsF0t1t",
   "2t3t4t5t6t7t8t9tAtBfITERATION MARKbT AND BOLTaYIAKENG PUACHUE HMONG CIRCLED CAwDIGIT EIGHTzcF",
   "IVEzdOURzcNINEzcONEzcSEVENzdIXzcTHREEzdWOzcZEROwLETTER AzeAzdCAzdDAzeLAzdEzeEzdFAzdGAzdHAzfHz",
   "dIzdKAzdLAzdMAzeLAzdNAzeCAzeKAzePAzfLAzeQAzeRAzeTAzfSAzfXAzeYAzdOzeOzdPAzeLAzdQAzdRAzeRAzdSAz",
   "dTAzeSAzeXAzdUzdVAzdWzdXAzeYAzdYAzdZAxOGOGRAM NYAJwSIGN FOR ANIMALzfINVERTEBRATEzfLOCATIONzfP",
   "ERSONzfTHINGzbXW XWxYLLABLE LENGTHENERwTONE-BzbDzbGzbJzbMzbSzbV"]

/-- The page of the letter O. -/
def pageO : List String :=
  ["OBJECT REPLACEMENT CHARACTERbLIQUE ANGLE OPENING DOWNvUPhHYPHENbSERVER EYE SYMBOLaCR AMOUNT O",
   "F CHECKdBELT BUCKLEeOW TIEeRANCH BANK IDENTIFICATIONdCHAIReUSTOMER ACCOUNT NUMBERdDASHeOUBLE ",
   "BACKSLASHdFORKdHOOKdINVERTED FORKbTAGONAL SIGNcOPUSaDENaFFICE BUILDINGaGHAM FEATHER MARKfLETT",
   "ER AILMmBEITHmCEIRTnOLLmDAIRmEABHADHoDHADHoMHANCHOLLmFEARNmGORTmIFINnODHADHmLUISmMUINmNGEADAL",
   "nIONmONNnRmPEITHmRUISmSAILnTRAIFmTINNEmUATHnILLEANNnRfREVERSED FEATHER MARKfSPACE MARKbONEKaH",
   "M SIGNaIL DRUMaK HAND SIGNaL CHIKI AHADiDIGIT EIGHToFIVEpOURoNINEoONEoSEVENpIXoTHREEpWOoZEROi",
   "GAAHLAA TTUDDAAGiLETTER AAJrKrMrWqGqLqNGqTpEDDqNqPqRRpIHqNYqRqSpLArAqEqIqOqUpOBqHqTTqVpUCqDqN",
   "NqYiMU TTUDDAGk-GAAHLAA TTUDDAAGiPHAARKAAjUNCTUATION DOUBLE MUCAADuMUCAADiRELAAbD CHINESE HOO",
   "K MARKlITERATION MARKdHUNGARIAN CAPITAL LETTER AzdAzdKzdMBzdNDzcCLOSE EzcEzdBzdCzeHzeSzdDzdEz",
   "dFzdGzeYzdHzdJzdKzdLzeYzdMzePzdNzeCzeTzf-SHAPED SIGNzeYzdPzdRzdSzeZzdTzeYzdVzdZzeSzcIzdIzcNIK",
   "OLSBURG OEznUEzcOzdEEzdOzcRUDIMENTA OEzmUEzcSHORT ERzcUzdNKzdSzdUnNUMBER FIFTYwVEuONEx HUNDRE",
   "DyTHOUSANDuTENnSMALL LETTER AzbAzbKzbMBzbNDzaCLOSE EzaEzbBzbCzcHzcSzbDzbEzbFzbGzcYzbHzbJzbKzb",
   "LzcYzbMzcPzbNzcCzcTzd-SHAPED SIGNzcYzbPzbRzbSzcZzbTzcYzbVzbZzcSzaIzbIzaNIKOLSBURG OEzlUEzaOzb",
   "EEzbOzaRUDIMENTA OEzkUEzaSHORT ERzaUzbNKzbSzbUdITALIC LETTER ArBErCHErDErEsFsKSsLsMsNsRtSsStH",
   "tSrHErIsIrKAsEsHEsUrNORTHERN TSErOrPEsHErSHEsOUTHERN TSErTEsHErUsUrVErYErZEkNUMERAL FIFTYuVEs",
   "ONEsTENdKEYdNORTH ARABIAN LETTER AINzLEFyBEHyDADzaLyES-1zb2zb3yFEHyGEEMzHAINyHAHzEHyKAFzHAHyL",
   "AMyMEEMyNOONyQAFyREHySADyTAHzEHzHALzaEHyWAWyYEHyZAHzaINrNUMBER ONEyTENzWENTYdPERMIC LETTER AN",
   "rBURrCHERYrDOIsZHOItITArEsFrGAIrHArIsAsErKOKErLEIrMENOErNENOErOsOrPEEIrREIrSHCHOOItOOIsIIrTAI",
   "sSIUrUrVERsOOIrYAtTsERuIuUsRYsUrZATAsHOIgSIAN NUMBER HUNDREDsONEsTENtWENTYuOlSIGN ArURAMAZDAA",
   "za-2zaHAqBAsGArUUMISHqCAqDAsHYAAUSHz-2rIrUqFAqGArUqHAqIqJArIqKArUqLAqMArIrUqNArUqPAqRArUqSArH",
   "ArSAqTArHArUqUqVArIqXArSHAAYATHIYAqYAqZAlWORD DIVIDERhONAL COMPUTERdSOGDIAN FRACTION ONE HALF",
   "lLETTER ALEPHuTERNATE AYINtYINsBETHsFINAL ALEPHyBETHyHEyNUNzb WITH VERTICAL TAILySADHEzd WITH",
   " VERTICAL TAILyTAWzb WITH VERTICAL TAILsGIMELsHEuTHsKAPHsLAMEDHsMEMsNUNsPEsRESH-AYIN-DALETHsS",
   "ADHEuMEKHtHINsTAWsWAWsYODHsZAYINmIGATURE AYIN-DALETHlNUMBER FIVEtOURsONEv HUNDREDsTENtHIRTYuR",
   "EEtWENTYuOfUTH ARABIAN LETTER ALEFzYNyBETHyDALETHzHADHEzbLETHyFEyGHAYNzIMELyHEzaTHyKAPHzHETHy",
   "LAMEDHyMEMyNUNyQOPHyRESHySADHEzaMEKHzaTzHINyTAWzETHzHAWzaETHyWAWyYODHyZAYNrNUMBER FIFTYyONEuE",
   "RIC INDICATORdTURKIC LETTER ORKHON AzBzDzEBzaDzaGzaKzaLzaNzaRzaSzaTzaYzGzLzNzQzRzSzaHzTzYyBAS",
   "HyECzLTzMzNCzaGzaTzaYzPzSHzZyIzCzQyOzEzaKzPzQzTrYENISEI AzaBzaDzaEzbBzbGzbKzbNzcGzbTzbYzaGzaL",
   "zaNGzaQzaRzaSHzaTzaYzEzaCzaNCzbTzbYzaSHzaZzIzaQzOEzbKzaQdUYGHUR COMBINING DOT ABOVEyBELOWuTWO",
   " DOTS ABOVEzdBELOWkLETTER ALEPHrBETHrFINAL HETHrGIMEL-HETHrKAPHrLAMEDHsESHrMEMrNUNrPErRESHrSA",
   "DHEtMEKHsHINrTAWrWAWrYODHrZAYINkPUNCTUATION BARwFOUR DOTSwTWO BARSzaDOTScER ADULTfMANfWOMANbI",
   "VEaM SYMBOLaN WITH EXCLAMATION MARK WITH LEFT RIGHT ARROW ABOVEbCOMING AUTOMOBILEiBUSiFIRE EN",
   "GINEiPOLICE CARiTAXIbE BUTTON MOUSEdDOT LEADERhOVER TWO DOTS PUNCTUATIONc-PIECE SWIMSUITbIONa",
   "PEN BOOKgXeCENTRE ASTERISKlBLACK STARlCROSSlTEARDROP-SPOKED ASTERISKeFILE FOLDERfOLDEReHANDS ",
   "SIGNeLOCKeMAILBOX WITH LOWERED FLAGrRAISED FLAGeSUBSETgPERSETd-CIRCUIT-OUTPUT H-TYPE SYMBOLtL",
   "-TYPE SYMBOLeOUTLINED RIGHTWARDS ARROWcRATING SYSTEM COMMANDbHIUCHUSbPOSITIONbTICAL DISCl ICO",
   "NdON KEYaR WITH DOT INSIDEbANGE BOOKgHEARTeUTANbIGINAL OFcYA AI LENGTH MARKgU LENGTH MARKfDIG",
   "IT EIGHTlFIVEmOURlNINElONElSEVENmIXlTHREEmWOlZEROfFRACTION ONE EIGHTHsHALFsQUARTERsSIXTEENTHo",
   "THREE QUARTERSuSIXTEENTHSfISSHARfLETTER AnAnInUmBAnHAmCAnHAmDAnDAoHAnHAmEmGAnHAmHAmInImJAnHAm",
   "KAnHAmLAnLAmMAmNAnGAnNAnYAmOmPAnHAmRAnHAnRAmSAnHAnSAmTAnHAnTAoHAmUnUmVAnOCALIC LvLuRvRmWAmYAn",
   "YAfSIGN ANUSVARAlVAGRAHAkCANDRABINDUkNUKTAkOVERLINEkVIRAMAmSARGAfVOWEL SIGN AArIrUqEqIrIqOqUr",
   "UqVOCALIC LzLyRzRbNATE LEFT PARENTHESISgRIGHT PARENTHESISbTHODOX CROSSaSAGE CAPITAL LETTER Av",
   "HvIwNuBRAuCHAuDHAuEvHCHAwKAwPAwTAxSAvINuGHAuHAvYAuIuKAvHAvYAuLAuMAuNAuOvINuPAuSAvHAuTAvSAwHAu",
   "UuWAuZAvHAfSMALL LETTER AtHtIuNsBRAsCHAsDHAsEtHCHAuKAuPAuTAvSAtINsGHAsHAtYAsIsKAtHAtYAsLAsMAs",
   "NAsOtINsPAsSAtHAsTAtSAuHAsUsWAsZAtHAbCbMANYA DIGIT EIGHTnFIVEoOURnNINEnONEnSEVENoIXnTHREEoWOn",
   "ZEROhLETTER ApApLEFoBAoCAYNoDEELpHAoEpEoFAoGAoHAoIoJAoKAAFpHAoLAANoMIINoNUUNoOpOoQAAFoRAoSApH",
   "IINoTAoUoWAWoXAoYAaTTERcOMAN SIYAQ ALTERNATE NUMBER EIGHTzeFIVEzfOURzi HUNDREDzeNINEzeSEVENzf",
   "IXzh HUNDREDzeTENzh THOUSANDzfHREEzfWOzh THOUSANDnFRACTION ONE HALFzaSIXTHnMARRATANnNUMBER EI",
   "GHTz HUNDREDzaTHOUSANDzYza THOUSANDuFIFTYz THOUSANDwVEy HUNDREDzTHOUSANDvORTYz THOUSANDwURy H",
   "UNDREDzTHOUSANDuNINEy HUNDREDzTHOUSANDyTYza THOUSANDuONEx HUNDREDyTHOUSANDuSEVENz HUNDREDzaTH",
   "OUSANDzTYzb THOUSANDvIXx HUNDREDyTHOUSANDxTYz THOUSANDuTENx THOUSANDvHIRTYza THOUSANDwREEz HU",
   "NDREDzaTHOUSANDvWENTYza THOUSANDwOx HUNDREDyTHOUSANDaUNCE SIGNbTBOX TRAYcLINED BLACK STARiGRE",
   "EK CROSSiLATIN CROSSiWHITE STARaVERHEATED FACEdLAPgPING BLACK SQUARESlWHITE AND BLACK SQUARES",
   "rSQUARESeINEaWLaXaYSTER"]

/-- The page of the letter P. -/
def pageP : List String :=
  ["PACKAGEbDcDING CHARACTERbGEd FACING UPeWITH CIRCLED TEXTkURLdRdScODAbHAWH HMONG CLAN SIGN FAJ",
   "wHAMyWJwKHABxOOxWMwLAUJxISwMUASwPHABwTHOJxSAByHEEJyWBwVAJxWJwXYOOJwYAJxEEGnONSONANT AUwCAUxHA",
   "UwHAUxLAUxNAUwLAUwMAUwNAUxCHAUxKAUxLAUxTHAUySAUwPLHAUwQHAUwRAUwVAUwXAUwYAUmDIGIT EIGHTsFIVEtO",
   "URsNINEsONEsSEVENtIXsTHREEtWOsZEROmMARK CIM HOMvKESwHAVvSOwUAMvTAUMwUBmNUMBER HUNDRED MILLION",
   "SzaStMILLIONStTEN BILLIONSxTHOUSANDSwSuRILLIONSmSIGN AVrCIM CHEEMwUAM TSHOOJvHAIS LUS NTOG NT",
   "OGvNRES TOSvPUB DAWBvTSOV ROGwXWVz CHWVrHLIsNUBrIB YAMrLOSrMEEJ SUABwTSEEBsUSrNQIGsTUJrTAUsHI",
   "RD-STAGE HLIsXHEEJ CEEVrVOS FEEMvLUBvNRUAvSEEVvTHIABxOMwSHAB CEEBrXAUSsIABsYEEM FAIBxNTXIVxRH",
   "OxTOVtOOrZWJ THAJmVOWEL KAABvVuBuIBvVuUBvVuVuWBvVtEBuEBvVuVtIABvVuBuVtOBuOBvVuVtUABvVuBuVtWBu",
   "VbLLAScM BRANCHeDOWN HANDeTREEeUP HANDdS UP TOGETHERdYRENE LEFT-POINTING FLEURONlTTER ALEPHrY",
   "INqBETHqDALETHqFINAL NUNqGIMELqHEsTHqKAPHqLAMEDHqMEMqNUNqPEqQOPHqRESHqSADHEsMEKHrHINqTAWrETHq",
   "WAWqYODHqZAYINjNUMBER FIVErOURqONEqTENrHREErWENTYsOjRIGHT-POINTING FLEURONbNCAKEScDA FACEbPER",
   "CLIPbRACHUTEdGRAPH SEPARATORiOSiUS MARKdLLEL TOiWITH HORIZONTAL STROKEnTILDE OPERATORcENTHESI",
   "ZED DIGIT EIGHTtFIVEuOURtNINEtONEtSEVENuIXtTHREEuWOnHANGUL CHIEUCHzb AvIEUCz AzaUuHIEUHz AuIE",
   "UNGz AuKHIEUKHzb AvIYEOKza AuMIEUMz AuNIEUNz AuPHIEUPHzb AvIEUPz AuRIEULz AuSIOSy AuTHIEUTHzb",
   " AvIKEUTza AnIDEOGRAPH ALLIANCExCALLyONGRATULATIONxEARTHyIGHTyNTERPRISExFESTIVALyINANCIALzREz",
   "VEyOURxHAVExLABORxMETALyOONxNAMEyINExONExREACHzPRESENTzSOURCEzaTxSELFzVENyIXyOCIETYyPECIALyTO",
   "CKzUDYyUNzPERVISExTENyHREEyWOxWATERyOODnKOREAN CHARACTER O HUzfJEONnLATIN CAPITAL LETTER AziB",
   "ziCziDziEziFziGziHziIziJziKziLziMziNziOziPziQziRziSziTziUziVziWziXziYziZtSMALL LETTER AzgBzgC",
   "zgDzgEzgFzgGzgHzgIzgJzgKzgLzgMzgNzgOzgPzgQzgRzgSzgTzgUzgVzgWzgXzgYzgZnNUMBER EIGHTEENvLEVENuF",
   "IFTEENvOURTEENuNINETEENuSEVENTEENvIXTEENuTENvHIRTEENvWELVExNTYcROTcT ALTERNATION MARKdIAL DIF",
   "FERENTIALhLINE BACKWARDmDOWNmFORWARDmUPgLY-RECYCLED PAPER SYMBOLdNERSHIP SIGNdY POPPERbSSED S",
   "YMBOLeNGER SHIPdIVE-PULL-DOWN-OUTPUT SYMBOLmUP-OUTPUT SYMBOLdPORT CONTROLbU CIN HAU GLOTTAL S",
   "TOPx FINALyVARIANTlLETTER AsBAsCAtHAsDAsEsFAtINAL KyLyMyNzGyPyTyWyYsGAsHAsItAsKAtHAsLAsMAsNAt",
   "GAsOsPAtHAsRAsSAsTAtHAsUtAsVAsZAmOW-FALLING TONEzb FINALzcLONGzg FINALlMID-LEVEL TONEz FINALz",
   "aLONG FINALlRISING TONEw FINALxLONGzb FINALlSANDHI GLOTTAL STOPze FINALsTONEw FINALxLONGzb FI",
   "NALbW PRINTSaDFbIaEACE SYMBOLdHdOCKcNUTScRbDESTRIANbN OVER STAMPED ENVELOPEcCILcGUINcSIVE FAC",
   "EcTAGRAMbOPLE HUGGINGbR MILLE SIGNdSIGNdTEN THOUSAND SIGNcCENT SIGNcFORMING ARTScMANENT PAPER",
   " SIGNcPENDICULARm WITH ScSEVERING FACEdON BOWING DEEPLYgCLIMBINGgDOING CARTWHEELgFROWNINGgIN ",
   "LOTUS POSITIONjSTEAMY ROOMgRAISING BOTH HANDS IN CELEBRATIONgWITH BALLmLOND HAIRlCROWNlFOLDED",
   " HANDSlHEADSCARFlPOUTING FACEfAL COMPUTERdPECTIVEbSETA SIGNcO SIGNbTRI DISHaHAGS-PA DOUBLE HE",
   "AD MARKiLETTER AqLTERNATE YAqSPIRATED FApBApCArNDRABINDUqHApDAqDAqZApEqEpFApGAqGApHApIpJApKAq",
   "HApLApMApNAqGAqNAqYApOpPAqHApQApRApSAqHAqMALL ApTAqHAqSArHAqTArHApUpVOICED HAuLESS SHApWApXAp",
   "YApZAqHAiMARK DOUBLE SHADnSHADiSINGLE HEAD MARKjUBJOINED LETTER RAzWAzYAkPERFIXED LETTER RAcI",
   "STOS DISC SIGN ARROWsBEEvHIVEtOOMERANGuWtULLS LEGsCAPTIVEuRPENTRY PLANEuTtHILDtLUBtOLUMNuMBwI",
   "NING OBLIQUE STROKEsDOLIUMuVEsEAGLEsFLUTEsGAUNTLETtRATERsHELMETtIDEtORNsLIDuLYsMANACLESuTTOCK",
   "sOX BACKsPAPYRUStEDESTRIANtLANE TREEuUMED HEADsRAMtOSETTEsSAWtHIELDvPtLINGtMALL AXEtTRAINERsT",
   "ATTOOED HEADtIARAtUNNYsVINEsWAVY BANDtOMANbILIPPINE DOUBLE PUNCTUATIONkSINGLE PUNCTUATIONbOEN",
   "ICIAN LETTER AINsLFrBETrDELTrGAMLrHEtTrKAFrLAMDrMEMrNUNrPErQOFrROSHrSADEsEMKsHINrTAUsETrWAUrY",
   "ODrZAIkNUMBER ONEu HUNDREDrTENsHREEsWENTYtOkWORD SEPARATORcLUSaICKdUP TRUCKbEbGc FACEdNOSEbLC",
   "ROW SIGNcE OF POOcLbNATAcCHED FINGERSeING HANDcE DECORATIONdAPPLEcWHEEL STARbSCEScTOLbTCHFORK",
   "i WITH TEE TOPaLACARDdE OF INTEREST SIGNiWORSHIPcNCK CONSTANTo OVER TWO PIcYGROUND SLIDEdING ",
   "CARD ACE OF CLUBStDIAMONDStHEARTStSPADESmBACKnLACK JOKERmEIGHT OF CLUBSvDIAMONDSvHEARTSvSPADE",
   "SmFIVE OF CLUBSuDIAMONDSuHEARTSuSPADESnOOLoUR OF CLUBSuDIAMONDSuHEARTSuSPADESmJACK OF CLUBSuD",
   "IAMONDSuHEARTSuSPADESmKING OF CLUBSuDIAMONDSuHEARTSuSPADESnNIGHT OF CLUBSwDIAMONDSwHEARTSwSPA",
   "DESmNINE OF CLUBSuDIAMONDSuHEARTSuSPADESmQUEEN OF CLUBSvDIAMONDSvHEARTSvSPADESmRED JOKERmSEVE",
   "N OF CLUBSvDIAMONDSvHEARTSvSPADESnIX OF CLUBStDIAMONDStHEARTStSPADESmTEN OF CLUBStDIAMONDStHE",
   "ARTStSPADESnHREE OF CLUBSvDIAMONDSvHEARTSvSPADESnRUMP-1t0t1t2t3t4t5t6t7t8t9s2t0t1s3s4s5s6s7s8",
   "s9nWO OF CLUBStDIAMONDStHEARTStSPADESmWHITE JOKERbDbUcNGERcS SIGNi ABOVE EQUALS SIGNjIN LEFT ",
   "HALF CIRCLEmRIGHT HALF CIRCLEmTRIANGLEjWITH BLACK TRIANGLEoCIRCUMFLEX ACCENT ABOVEoDOT BELOWo",
   "SMALL CIRCLE ABOVEpUBSCRIPT TWOoTILDE ABOVEuBELOWd-MINUS SIGNcTOe FORM FIVElOURkTHREElWOaMaOC",
   "KET CALCULATORbLICE CARjS REVOLVING LIGHTgOFFICERbODLEbP DIRECTIONAL FORMATTINGpISOLATEcCORNb",
   "RTABLE STEREObSEIDONcITION INDICATORcTAL HORNgMARKk FACEdBOXbT OF FOODcABLE WATER SYMBOLdTOcT",
   "ED PLANTbUCHcLTRY LEGcND SIGNcRING LIQUIDcTING CAT FACEhFACEbWER ON SYMBOLh-OFF SYMBOLfSLEEP ",
   "SYMBOLgYMBOLaRAYER BEADSbECEDESh ABOVE ALMOST EQUAL TOoEQUALS SIGNoNOT ALMOST EQUAL TOsEQUAL ",
   "TOoSINGLE-LINE EQUALS SIGNzaNOT EQUAL TOiBUT NOT EQUIVALENT TOiOR EQUAL TOoIVALENT TOiUNDER R",
   "ELATIONcGNANT MANiPERSONiWOMANcSCRIPTION TAKEdENTATION FORM FOR VERTICAL COLONzgMMAzeEM DASHz",
   "fN DASHzfXCLAMATION MARKzeHORIZONTAL ELLIPSISzeIDEOGRAPHIC COMMAzqFULL STOPzeLEFT ANGLE BRACK",
   "ETzjBLACK LENTICULAR BRACKETzjCORNER BRACKETzkURLY BRACKETzjDOUBLE ANGLE BRACKETzjPARENTHESIS",
   "zjSQUARE BRACKETzjTORTOISE SHELL BRACKETzjWHITE CORNER BRACKETzpLENTICULAR BRACKETzfOW LINEze",
   "QUESTION MARKzeRIGHT ANGLE BRACKETzkBLACK LENTICULAR BRACKETzkCORNER BRACKETzlURLY BRACKETzkD",
   "OUBLE ANGLE BRACKETzkPARENTHESISzkSQUARE BRACKETzkTORTOISE SHELL BRACKETzkWHITE CORNER BRACKE",
   "TzqLENTICULAR BRACKETzzeKCETzeSEMICOLONzeTWO DOT LEADERzeWAVY LOW LINEcTZELcVIOUS PAGEbIMEcNC",
   "EfSSdT SCREEN SYMBOLeERg ICONcVACY MESSAGEeTE USE ONElTWOk-1l2bOBING CANEcHIBITED SIGNcJECTIV",
   "EcPERTY LINEdORTIONjAL TOcSERPINAaSALTER PAHLAVI FOUR DOTS WITH CROSSzeDOTpLETTER ALEPHwBETHw",
   "DALETHwGIMELwHEyTHwKAPHwLAMEDHwMEM-QOPHwNUNwPEwSADHEyMEKHxHINwTAWwWAW-AYIN-RESHwYODHwZAYINpNU",
   "MBER FOURwONEz HUNDREDwTENxHREExWENTYyOpSECTION MARKpTURNED SECTION MARKaU1b2bBLIC ADDRESS LO",
   "UDSPEAKERbNCTUATION SPACEfS ELEVATUS MARKbRPLE HEARTcSEbSHPINbT LITTER IN ITS PLACE SYMBOL"]

/-- The page of the letter Q. -/
def pageQ : List String :=
  ["QUADRANT LOWER LEFToRIGHTiUPPER LEFTs AND LOWER LEFT AND LOWER RIGHTzdRIGHTxUPPER RIGHT AND L",
   "OWER LEFTztRIGHToRIGHTt AND LOWER LEFTzi AND LOWER RIGHTeUPLE INTEGRAL OPERATORjPRIMEcRTER NO",
   "TEcTERNION INTEGRAL OPERATORbESTION EXCLAMATION MARKiMARKhED EQUAL TObINCUNXbOTATION MARK"]

/-- The page of the letter R. -/
def pageR : List String :=
  ["RABBITf FACEbCCOONcING CARgMOTORCYCLEbDICAL SYMBOL BOTTOMdOe BUTTONeACTIVE SIGNbILWAY CARhTRA",
   "CKcNdBOWcSED BACK OF HANDgCOMMAgDOTjTED INTERPOLATION MARKERgFISTgHANDk WITH FINGERS SPLAYEDq",
   "PART BETWEEN MIDDLE AND RING FINGERSgINTERPOLATION MARKERgMC SIGNhD SIGNhR SIGNgSQUAREbMbTcIO",
   "bZORaECEIPTcORD SEPARATORcREATIONAL VEHICLEcYCLED PAPER SYMBOLfING SYMBOL FOR GENERIC MATERIA",
   "LSuTYPE-1 PLASTICSz2 PLASTICSz3 PLASTICSz4 PLASTICSz5 PLASTICSz6 PLASTICSz7 PLASTICSbD APPLEd",
   "GIFT ENVELOPEbFERENCE MARKbGIONAL INDICATOR SYMBOL LETTER AzgBzgCzgDzgEzgFzgGzgHzgIzgJzgKzgLz",
   "gMzgNzgOzgPzgQzgRzgSzgTzgUzgVzgWzgXzgYzgZdSTERED SIGNbJANG CONSONANT SIGN HvNwGvRgLETTER AnBA",
   "nCAnDAnGAnHAnJAnKAnLAnMAoBAnNAoDAoGApGAoYApJAnPAnRAnSAnTAnWAnYAgSECTION MARKgVIRAMAhOWEL SIGN",
   " AIsUrEsAsUrIrOrUbLIEVED FACEbMINDER RIBBONbPLACEMENT CHARACTERbSPONSEcTRICTED LEFT ENTRY-1v2",
   "eOOMbTURN LEFTgRIGHTgSYMBOLbVERSE CHECKER BOARDhINDEXhLIGHT FOUR POINTED PINWHEEL STARjNE FEE",
   "DhSOLIDUSo OPERATORpPRECEDING SUBSETpWITH HORIZONTAL STROKEhTILDE OPERATOR ABOVE LEFTWARDS AR",
   "ROWzcRIGHTWARDS ARROWgD ANGLEn WITH UNDERBARiCOMMAiDOUBLE PRIMEu QUOTATION MARKpSTROKE NOT SI",
   "GNiEMPTY SETiFORKED PARAGRAPHOSiHAND WITH MIDDLE FINGER EXTENDEDiNOT SIGNiPILCROW SIGNjRIMEiQ",
   "UESTION MARKiRAISED HAND WITH FINGERS SPLAYEDjIGHT ANGLEjOTATED FLORAL HEART BULLETiSANS-SERI",
   "F CAPITAL LjEMICOLONiTHUMBS DOWN SIGNpUP SIGNjILDEn EQUALSjRIPLE PRIMEiVICTORY HANDcOLVING HE",
   "ARTSaHINOCEROSaIbAL SIGNbBBONf ARROW DOWN LEFTrRIGHTmLEFT DOWNrUPmRIGHT DOWNsUPmUP LEFTpRIGHT",
   "bCE BALLeCRACKERbFLEbGHT AND LOWER ONE EIGHTH BLOCKjUPPER ONE EIGHTH BLOCKhGER BUBBLEiLEk BRA",
   "CKETs WITH DOTlDOTTED SUBSTITUTION MARKERlSUBSTITUTION MARKERlVARIANT WITH SQUARElWITH ARCqDO",
   "WNWARDS ZIGZAG ARROWgRC GREATER-THAN BRACKEThROW WITH CIRCLED PLUSqSMALL CIRCLEfBLACK LENTICU",
   "LAR BRACKETlTORTOISE SHELL BRACKETfCEILINGgORNER BRACKETgURLY BRACKETs LOWER HOOKtMIDDLE PIEC",
   "EtUPPER HOOKfDOTTED SUBSTITUTION BRACKEThUBLE ANGLE BRACKETnRROW WITH ROUNDED HEADmPARENTHESI",
   "SmQUOTATION MARKmWIGGLY FENCEfFISH TAILhVE EIGHTHS BLOCKgLOORfHALF BLACK CIRCLEqSTARmOCKkFOLD",
   "ERkMEDIUM SHADEkRUNNING MANhND TELEPHONE RECEIVERfLOW PARAPHRASE BRACKETfNORMAL FACTOR SEMIDI",
   "RECT PRODUCTfONE EIGHTH BLOCKjQUARTER BLOCKgPEN SQUARED DOTgUTER JOINfPARENTHESISq EXTENSIONr",
   "LOWER HOOKrUPPER HOOKfRAISED OMISSION BRACKETfS-SHAPED BAG DELIMITERgEMIDIRECT PRODUCThVEN EI",
   "GHTHS BLOCKgIDEWAYS U BRACKEThNGLE QUOTATION MARKgPEAKERm WITH ONE SOUND WAVEsTHREE SOUND WAV",
   "ESiECH BUBBLEgQUARE BRACKETt EXTENSIONuLOWER CORNERuUPPER CORNERuWITH DOUBLE STROKEzQUILLzSTR",
   "OKEzTICK IN BOTTOM CORNERzhTOP CORNERzUNDERBARgUBSTITUTION BRACKETfTACKgHIRD WHITE RIGHT POIN",
   "TING INDEXhOUGHT BUBBLEhREE EIGHTHS BLOCKlQUARTERS BLOCKgORTOISE SHELL BRACKETgRANSPOSITION B",
   "RACKEThIANGLEn ABOVE LEFT TRIANGLElULAR ONE QUARTER BLOCKfVERTICAL BAR WITH QUILLpOX LINEfWHI",
   "TE CORNER BRACKETmURLY BRACKETlLENTICULAR BRACKETlPARENTHESISlSQUARE BRACKETlTORTOISE SHELL B",
   "RACKETgIGGLY FENCEe-FACING ARMENIAN ETERNITY SIGNmFISTmSVASTI SIGNx WITH DOTSfHANDED INTERLAC",
   "ED PENTAGRAMfPOINTING ANGLE BRACKEToCURVED ANGLE BRACKEToDOUBLE ANGLE QUOTATION MARKoMAGNIFYI",
   "NG GLASSfSHADED WHITE RIGHTWARDS ARROWgIDE ARC CLOCKWISE ARROWfTO-LEFT EMBEDDINGnISOLATEnMARK",
   "nOVERRIDEeHAND INTERIOR PRODUCTeWARDS ARROWp ABOVE ALMOST EQUAL TOwREVERSE ALMOST EQUAL TOzeT",
   "ILDE OPERATORwSHORT LEFTWARDS ARROWwTILDE OPERATORrND UPPER AND LOWER ONE EIGHTH BLOCKqFROM B",
   "ARy TO BLACK DIAMONDqOVER LEFTWARDS ARROWqTHROUGH GREATER-THANySUPERSETyXrO BARuLACK DIAMONDq",
   "WITH CORNER DOWNWARDSvDOTTED STEMxUBLE VERTICAL STROKEvEQUILATERAL ARROWHEADvHOOKvLARGE TRIAN",
   "GLE ARROWHEADwOOPvMEDIUM TRIANGLE ARROWHEADvNOTCHED TAILvPLUS BELOWvSMALL EQUILATERAL ARROWHE",
   "ADzbTRIANGLE ARROWHEADwTROKEvTAILz WITH DOUBLE VERTICAL STROKEzfVERTICAL STROKEwIP DOWNWARDSz",
   "UPWARDSvVERTICAL STROKEp-TAILkBACK-TILTED SHADOWED WHITE ARROWlLACK ARROWqCIRCLED WHITE ARROW",
   "lOTTOM SHADED WHITE ARROWkCOMPRESSED ARROWkDASHED ARROWlOUBLE ARROWw FROM BARxWITH STROKEzcVE",
   "RTICAL STROKEw-TAILrDASH ARROWkFINGER-POST ARROWlRONT-TILTED SHADOWED WHITE ARROWkHANDmRPOON ",
   "OVER LEFTWARDS HARPOONsWITH BARB DOWN ABOVE LEFTWARDS HARPOON WITH BARB DOWNzhBELOW LONG DASH",
   "zhFROM BARzhTO BARzgWARDSzcUP ABOVE LEFTWARDS HARPOON WITH BARB UPzmONG DASHzlRIGHTWARDS HARP",
   "OON WITH BARB DOWNzfFROM BARzfTO BARzeWARDSlEAVY ARROWqCOMPRESSED ARROWkLEFT-SHADED WHITE ARR",
   "OWkOPEN-HEADED ARROWkPAIRED ARROWSkQUADRUPLE ARROWkRIGHT-SHADED WHITE ARROWlOCKETkSANS-SERIF ",
   "ARROWlQUARED ARROWnIGGLE ARROWkTOP SHADED WHITE ARROWlRIANGLE ARROWHEADs-HEADED ARROWzf OVER ",
   "LEFTWARDS TRIANGLE-HEADED ARROWzgTO BARzgWITH BOLD SHAFTzlDOUBLE HORIZONTAL STROKEzsVERTICAL ",
   "STROKEzlHEAVY SHAFTzlLONG TIP DOWNWARDSzuUPWARDSzlMEDIUM SHAFTzlNARROW SHAFTzlVERY HEAVY SHAF",
   "TzaDASHED ARROWzaPAIRED ARROWSnPLE ARROWrDASH ARROWlWO HEADED ARROWn-HEADED ARROW FROM BARzbW",
   "ITH DOUBLE VERTICAL STROKEzgTAILzk WITH DOUBLE VERTICAL STROKEzqVERTICAL STROKEzhRIANGLE ARRO",
   "WHEADSzgVERTICAL STROKEvTRIPLE DASH ARROWkWAVE ARROWlHITE ARROWv FROM WALLwWITHIN TRIANGLE AR",
   "ROWHEADbNGd ABOVEeBUOYeEQUAL TOeIN EQUAL TOeOPERATORePOINTdED PLANETdING BELLbSING DIAGONAL C",
   "ROSSING FALLING DIAGONALySOUTH EAST ARROWaLEbIbMbOaOASTED SWEET POTATObBOT FACEbCKdETbLL OF P",
   "APERdED-UP NEWSPAPEReR COASTERgSKATEdING ON THE FLOOR LAUGHINGbMAN AS SIGNfCENTURIAL SIGNfDEN",
   "ARIUS SIGNgIMIDIA SEXTULA SIGNgUPONDIUS SIGNfNUMERAL EIGHToLEVENnFIFTYs EARLY FORMtTHOUSANDpV",
   "Er HUNDREDsTHOUSANDoOURnNINEnONEq HUNDREDy THOUSANDrTHOUSANDz C DnREVERSED ONE HUNDREDnSEVENo",
   "IXq LATE FORMnTENq THOUSANDoHREEoWELVEpOfQUINARIUS SIGNfSEMUNCIA SIGNhSTERTIUS SIGNhXTANS SIG",
   "NjULA SIGNgILIQUA SIGNfUNCIA SIGNbOSTERbSEdTTEbTATED CAPITAL QhFLORAL HEART BULLEThHEAVY BLAC",
   "K HEART BULLEThLIGHT FOUR POINTED BLACK CUSPhWHITE FOUR POINTED CUSPbUND PUSHPINfTARGETeED SY",
   "MBOL FOR CAIsFUsLUsSHOUuUANGXIsXIbWBOATaSaUBLE SIGNbGBY FOOTBALLbLE-DELAYEDbMI DIGIT EIGHTkFI",
   "VElOURkNINEkONEkSEVENlIXkTHREElWOeFRACTION ONE HALFrQUARTERrTHIRDnTWO THIRDSeNUMBER EIGHT HUN",
   "DREDqYlFIFTYnVE HUNDREDmORTYnUR HUNDREDlNINE HUNDREDpTYlONE HUNDREDlSEVEN HUNDREDqTYmIX HUNDR",
   "EDoTYlTENmHIRTYnREE HUNDREDmWENTYnO HUNDREDbNIC ARLAUG SYMBOLfBELGTHOR SYMBOLfCROSS PUNCTUATI",
   "ONfLETTER AC AnESCnLGIZ EOLHXnNSUZ AmBERKANAN BEORC BJARKAN BmCnALCnEALCoNnWEORTHmDnAGAZ DAEG",
   " DnOTTED-LtNtPmEnARnHWAZ EH EnNGnTHmFEHU FEOH FE FnRANKS CASKET ACzbESCzaEHzaISzaOSmGnARnEBO ",
   "GYFU GoRmHAEGL HoGLAZ HmICELANDIC-YRnNGpWAZnORnSAZ IS ISS InWAZ EOHmJERAN JmKnAUN KqAmLAUKAZ ",
   "LAGU LOGR LnONG-BRANCH-AR AEyHAGALL HyMADR MyOSS OyYRmMANNAZ MAN MmNAUDIZ NYD NAUD NmOnEnNnOn",
   "PEN-PnS OnTHALAN ETHEL OmPERTHO PEORTH PmQmRAIDO RAD REID RmSHoORT-TWIG-AR AxBJARKAN BxHAGALL",
   " HxMADR MxNAUD NxOSS OxSOL SxTYR TxYRnIGEL LONG-BRANCH-SOL SnOWILO SnTANmTHURISAZ THURS THORN",
   "nIWAZ TIR TYR TmURUZ UR UmVmWnUNJO WYNN WmXmYnRmZfMULTIPLE PUNCTUATIONfSINGLE PUNCTUATIONfTVI",
   "MADUR SYMBOLcNERdING SHIRT WITH SASHbPEE SIGNbSSIAN ASTROLOGICAL SYMBOL BINOVILEzbNOVILEzbQUI",
   "NTILEzbSENTAGONzbTREDECILEzbVIGINTILE"]

end Gloss.Text.CharName
