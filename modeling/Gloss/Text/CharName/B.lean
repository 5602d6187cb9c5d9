/-! The names of characters that begin with the letter B, as pages. -/

namespace Gloss.Text.CharName

/-- The page of the letter B. -/
def pageB : List String :=
  ["BABYd ANGELeBOTTLEeCHICKeSYMBOLbCK OF ENVELOPEeWITH LEFTWARDS ARROW ABOVEd-TILTED SHADOWED WH",
   "ITE RIGHTWARDS ARROWdSLANTED SOUTH ARROW WITH HOOKED TAILzeRIZONTAL TAILePACEcONcTRIAN CAMELb",
   "DGERcMINTON RACQUET AND SHUTTLECOCKbGELcGAGE CLAIMcUETTE BREADbLINESE ADEG ADEGiCARIK PAMUNGK",
   "AHqRERENoSIKIiDIGIT EIGHToFIVEpOURoNINEoONEoSEVENpIXoTHREEpWOoZEROiLETTER AIKARAqKARAu TEDUNG",
   "qRCHAIC JNYAqSYURA SASAKpBAr KEMBANGpCAr LACApDAr MADUtURDA ALPAPRANAyMAHAPRANApEF SASAKqKARA",
   "pGAr GORApHApIKARAu TEDUNGpJAr JERApKAr MAHAPRANArF SASAKqHOT SASAKpLAr LENGAx TEDUNGpMApNAr ",
   "RAMBATqGAqYApOKARAu TEDUNGpPAr KAPALpRAr REPAw TEDUNGpSAr SAGAuPApTAr LATIKsMURDA MAHAPRANAsT",
   "AWAqZIR SASAKpUKARAu TEDUNGpVE SASAKpWApYApZAL SASAKiMUSICAL SYMBOL COMBINING BENDEzhENDEPzhG",
   "ONGzhJEGOGANzhKEMPLIzn WITH JEGOGANzlULzn WITH JEGOGANzhTEGEHxDAENGzINGzNGzb GEDEzcSURANGyENG",
   "zUNGyINGyONGyUNGxLEFT-HAND CLOSED PLAKzqUKzhOPEN PANGznINGznUNGxRIGHT-HAND CLOSED TAKzqUKziOP",
   "EN DAGzoUGiPAMADAo LANTANGlENENGkNTIn LANTANGiSIGN BISAHnCECEKnREREKANnSURANGnULU CANDRArRICE",
   "MiVOWEL SIGN LA LENGAzb TEDUNGtPEPETy TEDUNGtRA REPAza TEDUNGtSUKUx ILUTtTALINGz REPAze TEDUN",
   "GzaTEDUNGuEDUNGtULUw SARIiWINDUcL OF YARNdET SHOESdOONg-SPOKED ASTERISKeT BOLD SCRIPT XiXj WI",
   "TH BALLOTqOLD CHECKuSCRIPT XpCHECKpLIGHT XpSCRIPT XpXgSCRIPT XgXbMUM COLONhMBINING MARK KOQND",
   "ONuTUKWENTISiMAfFULL STOPfLETTER AmEEmFAAMAEnEEnOMnUmImKAnENoToUXnInOoGHOMoVUUnPAnUnYEEmLAnEE",
   "EEnInOQnUmMnAnBAAoENnEEEEoNnInOnUmNAnDAAnGAoGAoKWAENnInJAEMoEEoUAEnSHAnTEEoUUnUoAEnYImOmPAnEE",
   "oUXnHASE-A FIRIuGBIEE FONvHEUAEGHEUAEzaRAEuKAFAwQvETwUKEUTNDAvPOQvUOQuLAPAQvET KUTvOMMAEvUwAE",
   "PuMAEKEUPxMyBGBIEEyKPENyVEUXxNYIxSIwNSUAEwP PIEETvBANYIxQvEUNJOMNDEUQvGBASAvON NGGEUAETwOMEUT",
   "yPUQvVEUAENGAMuNAA MFONwQvDA LEERAEWAxANGGEUAETvENvGANGUwGENwKUE MFONzNZEUMvIKAvJAMvKAARAEwIN",
   "DIvSHAxIEEvTAPy MFAAzNTAAwOQPENvYETwIxT MONGKEUAEQvZA MFONwUN MEUTuPA LEERAEWAwAMxRAEwMSHAEwS",
   "HAEvETvON MFON PIPAEMBAzjGBIEEyPA NJI PIPAEMBAzlGBIEEvUPuROMuSEUNYAMvHINDA PA NJIxRAEwOQ NSHU",
   "T YUMwUENSHUETxMvISAvONJAMwQwTvUUuTEUAENxTEUWENvITA MFONvU MAEMBAwAEPuU YUQ NAEvNKNOWNuVEEsB ",
   "FEEwUXuGHEUGHENzbUAEMuKAMvEUAEMxPUQxYEUXvIEEMwQuLAANAEwM NSHUT NYAMvETvOM NTEUMuMAw NJEUAENAz",
   "UQAvBA MAELEExARAEwEURIwIT MBAAKETwUOQvEUQxT NGGEETvFIYAQwON TEUAEQvONTIEENuNDU NJAAvGGAAMxEU",
   " MBUxUOQza LARGEwKINDI MVOPwOMvSENwHUETvTIEE SHEUOQvYAEMAEwI NTEUMuPARUMvEESHIvITvUNGAAMuSAKE",
   "UAEvET TUvHET NJAQxUAEQTUvIEEvUEuTAAMvU MAEMGBIEExNSIEEuVEUMuWUAETuYAFU LEERAEWAvEURAEsC BUNG",
   "uFUEuGBAYIvHAPxRAEuKAAvEN FATIGUEyLAWwTwUKAQxMxSEUXyHEUAEPvPARAQvUOP NKAARAEwTuLAMwPvIQvUuMA ",
   "KEUAERIxNSIEEwEMBAxSIvBAA CABBAGE-TREEzPICKETxNYIwEEKEETxRAExUMyXwIxRIEENxTwUAEMxEvGBASAQvIEE",
   "vUAEuNANSANAQwQvDAMxPwEUAEREEyTwIDAwOMBUvGAQwGENxUyAEN NYAMyEETyMyONwKAQxUE MAEMBAwOMvJAEMxMw",
   "EEEExUXwUEQvSAwEUAENwHAQwOMwUNxOT NGOMvTAAwENxUNGBAwU MBITvYIR MKPARAQ MEUNvZAwEUMuPENvINwRIE",
   "ENuRUuSETFONwUXvHIQwUEQvUAETuTAASHAEvETwUTEUXvITA YUExUAEPuVEUAEPENxXuWANGKUOQvUPuYAAvEUQvU M",
   "UOMAEwMwWOQsD FAAvEUFEUAETuGHAAwEUAEuKETwUAETMEUNxMxOT MBUAExPvUwNwOMwQvWAETvYEEuLEEEEwTwUAEP",
   "xMvIEEvOQvUMuMvAENJETwLEERIvBAAy SEVENwUOvEEEEwUNxTvFEUAEyTwIEEwOxNvGBEUNxIEExOFUMvONIvUvVOPu",
   "NDAMwEExUXwONvGGAAMzaAEyPxEUXxUOMxWAENwKAPxEUAEQzRIxIEExUNxYEEvIvJAPwEUAEMyTwIxEEwUEQvSHEExUT",
   "wIEEPzTwUMvTEExUMwUUvUvYAMwETwIwUEuPAPvEEwUTAEvIPvUQwUTuRAEMvEN MUCHyOLDvIIuSAPwQvEUAEQvHEExU",
   "AEyXwIIwOQwUvOTvUAEwEwUuTAEvEEEEwUAENxNxTvIvOQvUwOTuWAPvUAENuYAEMMAEvENvUOMxPwWOQsE AuFAwQvEE",
   "vOMvU CALLxIxREMEDYwExTuGBETxUXvHAAMAEwETxUAEyNyXwOMuIuKETwUAExXvIvOvPEUXvUETwOPwTuLAAMwPwQvE",
   "UAEMvOMwONxTwQvUuMAwExMwPwQvBEExUMvENvFEUQvGBAxENvIwEEvONvUAEvVIuNAwEvDAA MY HOUSEzSOFTNESSxP",
   "wIAQxQwUNvGAwEUREUTwGEEEEyUAEzbTxUAESHAE NYAMyPyRAEwKAyAMIxEUAEMzXxUMyPwOPxQwUAEzTvJAEMLIwEEy",
   " EPOCHxUXvKOMvSHIEExUEyOPvTAPwUMvYI BETWEENyCLEAVERvZAQwUQuOuPA PEOPLEyLURALwAxMvEEMwUTxXvIwE",
   "EQxTvOwONvUwAExQwEwMuRAEwQvEUXvIMGBAuSAAvEEwTvHEUAEQwIQwOxQvOMvUAENuTAAxQwEN NTEUMwMwQvENwUxA",
   "EQvOOxNwQvUAEwMxAEuVEEwUAEvOMuWEUXvUEwOuYAPvEUAEzTxMxXvIEEwTvOQ COVERySWIMMINGvUAENwEQwNwQsF ",
   "EEuFOMuKAvENwTvOvPAvUvYEEuLAvIvOQuMvAvBAAwENvEEEEvOuNDAAvGGAwKWAENvIvJAEMwUAEvSHAvTEEvUwAEvYI",
   "uPEEwUXvUAEuREEwNwUXvIEEwIvUuSAMBAvEUXvHIIwOwUvIvUUuTAAwEvETuUuVUEQuWAvUEuYAvOQnInUAEoEmRAEnE",
   "EoNoUXnIEEoInUmSAMBAnEUXnHEUXoIIoOoUnInUUmTAAoEnENoTnImUmWAnUEmYAnOQnUQfNJAEMLIfQUESTION MARK",
   "fSEMICOLONbNANAcJOcKdNOTE WITH DOLLAR SIGNnEURO SIGNnPOUND SIGNnYEN SIGNbR CHARTdOF SOAPcBER ",
   "POLEbSEBALLcKETfBALL AND HOOPcSA VAH COMBINING HIGH TONEx-LOW TONEtLOW TONEw-MID TONEtMID TON",
   "EjFULL STOPjLETTER AqBAqCEqDHIIrOqErErNNIqFAqGAHrBUqHWAHqIqJOqKArPAHqMBEqOrOqPAqSEqTOqUrWUqVU",
   "qWAsDDAqYEINrIEqZObTcAK CONSONANT SIGN HuNGfLETTER AmBAmCAmDAmGAmHAmImJAmKARO BAmLAmMAoNDAILI",
   "NG HAxNAxSAnBAmNAnDAnGAnORTHERN TAnYAmPAoKPAK WAmRAmSAnIMALUNGUN AxGAxHAxLAxMAxPAxRAxSAxWAxYA",
   "nOUTHERN TAmUmWAmYAfPANGOLATiONGONANfSIGN TOMPIgYMBOL BINDU JUDULsNA METEKsPANGOLATtINARBORAS",
   "fVOWEL SIGN ErEqIqKARO IvOqOqPAKPAK EqUr FOR SIMALUNGUN SAcHdTUBcTERYaEACH WITH UMBRELLAcMED ",
   "ASCENDING MUSICAL NOTESgDESCENDING MUSICAL NOTESgEIGHTH NOTESgSIXTEENTH NOTEScNScR FACEdDED P",
   "ERSONcTING HEARTcVERbCAUSEbDbER MUGcTLEbLcLd PEPPEReSYMBOLeWITH CANCELLATION STROKEdHOP BELLb",
   "NGALI ABBREVIATION SIGNiNJIiU LENGTH MARKhCURRENCY DENOMINATOR SIXTEENqNUMERATOR FOURzaONEzd ",
   "LESS THAN THE DENOMINATORzaTHREEzbWOhDIGIT EIGHTnFIVEoOURnNINEnONEnSEVENoIXnTHREEoWOnZEROhGAN",
   "DA MARKhISSHARhLETTER ApApIpUoBApHAoCApHAoDApDAqHApHAoEoGApHAoHAoIpIoJApHAoKApHArNDA TAoLAoMA",
   "oNApGApNApYAoOoPApHAoRAq WITH LOWER DIAGONALwMIDDLE DIAGONALpHApRAoSApHApSAoTApHApTAqHAoUpUoV",
   "EDIC ANUSVARApOCALIC LxLwRxRoYApYAhRUPEE MARKnSIGNhSANDHI MARKiIGN ANUSVARAnVAGRAHAmCANDRABIN",
   "DUmNUKTAmVIRAMAoSARGAhVOWEL SIGN AAtItUsEsItIsOsUtUsVOCALIC LzbLzaRzbRcT ARROW POINTING DOWNW",
   "ARDS THEN NORTH EASTdO BOXcZENE RINGl WITH CIRCLEbT SYMBOLcWEENbVERAGE BOXaHAIKSUKI DANDAkIGI",
   "T EIGHTpFIVEqOURpNINEpONEpSEVENqIXpTHREEqWOpZEROkOUBLE DANDAjGAP FILLER-1u2jHUNDREDS UNIT MAR",
   "KjLETTER ArArIrUqBArHAqCArHAqDArDAsHArHAqEqGArHAqHAqIrIqJArHAqKArHAqLAqMAqNArGArNArYAqOqPArHA",
   "qRAqSArHArSAqTArHArTAsHAqUrUqVArOCALIC LyRzRqYAjNUMBER EIGHTvYqFIFTYsVErORTYsURqNINEuTYqONEqS",
   "EVENvTYrIXtTYqTENrHIRTYsREErWENTYsOjSIGN ANUSVARApVAGRAHAoCANDRABINDUoVIRAMAqSARGAjVOWEL SIGN",
   " AAvIvUuEuIvIuOuUvUuVOCALIC LzcRzdRjWORD SEPARATORaICYCLEfISTbG REVERSE SOLIDUSdSOLIDUSbKINIb",
   "LLED CAPdIARDSbOHAZARD SIGNbRDcTHDAY CAKEbSONbTCOIN SIGNcING LIPaLACK BOWTIEfCENTRE WHITE STA",
   "RgHESS BISHOPr ROTATED NINETY DEGREESzaTWO HUNDRED SEVENTY DEGREESlEQUIHOPPERv ROTATED NINETY",
   " DEGREESlKINGp ROTATED NINETY DEGREESyTWO HUNDRED SEVENTY DEGREESmNIGHTr ROTATED FORTY-FIVE D",
   "EGREESzaNINETY DEGREESzaONE HUNDRED THIRTY-FIVE DEGREESzaTHREE HUNDRED FIFTEEN DEGREESzbWO HU",
   "NDRED SEVENTY DEGREESzmTWENTY-FIVE DEGREESr-BISHOPsQUEENsROOKlPAWNp ROTATED NINETY DEGREESyTW",
   "O HUNDRED SEVENTY DEGREESlQUEENq ROTATED NINETY DEGREESzTWO HUNDRED SEVENTY DEGREESlROOKp ROT",
   "ATED NINETY DEGREESyTWO HUNDRED SEVENTY DEGREESlTURNED BISHOPsKINGtNIGHTsPAWNsQUEENsROOKgIRCL",
   "El FOR RECORDmWITH DOWN ARROWrTWO WHITE DOTSrWHITE DOT RIGHTgLUB SUITgROSS ON SHIELDgURVED DO",
   "WNWARDS AND LEFTWARDS ARROWzaRIGHTWARDS ARROWmLEFTWARDS AND DOWNWARDS ARROWzaUPWARDS ARROWmRI",
   "GHTWARDS AND DOWNWARDS ARROWzbUPWARDS ARROWmUPWARDS AND LEFTWARDS ARROWyRIGHTWARDS ARROWfDIAM",
   "ONDm CENTREDnMINUS WHITE XnON CROSSnSUITnWITH DOWN ARROWgOWN POINTING BACKHAND INDEXj-POINTIN",
   "G DOUBLE TRIANGLEtISOSCELES RIGHT TRIANGLEtSMALL TRIANGLEtTRIANGLEjWARDS EQUILATERAL ARROWHEA",
   "DgRAUGHTS KINGoMANhOPLETfFLAGhORETTEgOLDERhUR POINTED STARfHARD SHELL FLOPPY DISKgEARTk SUITh",
   "XAGONgORIZONTAL ELLIPSEhURGLASSfLARGE CIRCLElSQUAREgEFT LANE MERGEkPOINTING BACKHAND INDEXtIN",
   "DEXj-POINTING DOUBLE TRIANGLEzi WITH VERTICAL BARtISOSCELES RIGHT TRIANGLEtPOINTERtSMALL TRIA",
   "NGLEtTRIANGLEjWARDS BULLETpEQUILATERAL ARROWHEADgOWER LEFT TRIANGLElRIGHT TRIANGLEhZENGEfMEDI",
   "UM DIAMONDnOWN-POINTING TRIANGLEzi CENTREDmLEFT-POINTING TRIANGLEzi CENTREDnOZENGEmRIGHT-POIN",
   "TING TRIANGLEzj CENTREDmSMALL DIAMONDsLOZENGEsSQUAREnQUAREmUP-POINTING TRIANGLEzg CENTREDgOON",
   " LILITHfNIBfOCTAGONfPARALLELOGRAMgENNANTiTAGONgUSHPINfQUESTION MARK ORNAMENTfRECTANGLEgIGHT P",
   "OINTING BACKHAND INDEXuINDEXk-POINTING DOUBLE TRIANGLEzj WITH VERTICAL BARuISOSCELES RIGHT TR",
   "IANGLEuPENTAGONvOINTERuSMALL TRIANGLEuTRIANGLEzc WITH DOUBLE VERTICAL BARkWARDS ARROWvHEADqBU",
   "LLETqEQUILATERAL ARROWHEADgOSETTEfSAFETY SCISSORSgCISSORSgHOGI PIECEgKULL AND CROSSBONESgLIGH",
   "TLY SMALL CIRCLEuSQUAREgMALL DIAMONDlLOZENGElSQUAREmTARhILING FACEgNOWMANgPADE SUITgQUAREl BU",
   "TTONmCENTREDmFOR STOPgTARgUN WITH RAYSfTELEPHONEgINY DIAMONDkLOZENGEkSQUAREgOUCHTONE TELEPHON",
   "EgRUCKgWO-WAY LEFT WAY TRAFFICfUNIVERSAL RECYCLING SYMBOLgP POINTING BACKHAND INDEXh-POINTING",
   " DOUBLE TRIANGLErISOSCELES RIGHT TRIANGLErSMALL TRIANGLErTRIANGLEhPER LEFT TRIANGLElRIGHT TRI",
   "ANGLEhWARDS EQUILATERAL ARROWHEADfVERTICAL ELLIPSEoRECTANGLEiY SMALL DIAMONDqLOZENGEqSQUAREe-",
   "FEATHERED NORTH EAST ARROWpRIGHTWARDS ARROWpSOUTH EAST ARROWfLETTER CAPITAL CuHuIuRuZcNK SYMB",
   "OLbOCK SEXTANT-1o2p3q4r5r6q5r6q6p4q5r6q6p5q6p6o3p4q5r6q6p56p6o4p5q6p6o5p6o6n2o3p4q5r6q6p5q6p6",
   "o4p5q6o5p6o6n3o4p5q6p6o5p6o6n4o5p6o6n5o6n6cSSOMcWFISHbUE BOOKeHEARTdBERRIESaOARbLD EIGHT SPOK",
   "ED ASTERISKeFIVE SPOKED ASTERISKeGREEK CROSSeSALTIREfIX SPOKED ASTERISKeWHITE CIRCLEkSQUAREbM",
   "cBbNEbOKdMARKh TABSdScMERANGbPOMOFO FINAL LETTER GvHvKvPvTiLETTER AqHqIrNNqMqNrGrNqUrNNpBqUpC",
   "qHpDpEqEqHqIqNrGrNqRpFpGqHqNqUqWpHpIqHqMqNNsNqRqUpJqIpKqWpLqHpMpNqGrGqNpOq WITH DOT ABOVEqEqM",
   "qNGrNqOqUpPpQpRpSqHpTpUqNNpVpXpZqHqIqYbTTLE WITH POPPING CORKdOM ARC ANTICLOCKWISE ARROWgCURL",
   "Y BRACKETgHALF BLACK CIRCLElINTEGRALlLEFT PARENTHESISlRIGHT PARENTHESISgLEFT CORNERmROPlHALF ",
   "BRACKETgPARENTHESISgRIGHT CORNERnROPmHALF BRACKETgSQUARE BRACKETu OVER TOP SQUARE BRACKETgTOR",
   "TOISE SHELL BRACKETbUQUETg OF FLOWERSbW AND ARROWcL OF HYGIEIAeWITH SPOONdINGcTIEf WITH LEFT ",
   "HALF BLACKlRIGHT HALF BLACKbX DRAWINGS DOUBLE DOWN AND HORIZONTALzcLEFTzcRIGHTtHORIZONTALtUP ",
   "AND HORIZONTALzaLEFTzaRIGHTtVERTICALzb AND HORIZONTALzgLEFTzgRIGHToWN DOUBLE AND HORIZONTAL S",
   "INGLEzcLEFT SINGLEzcRIGHT SINGLErHEAVY AND HORIZONTAL LIGHTzbLEFT LIGHTzgUP LIGHTzbRIGHT LIGH",
   "TzhUP LIGHTzbUP HORIZONTAL LIGHTrLIGHT AND HORIZONTAL HEAVYzbLEFT HEAVYzgUP HEAVYzbRIGHT HEAV",
   "YzhUP HEAVYzbUP HORIZONTAL HEAVYrSINGLE AND HORIZONTAL DOUBLEzcLEFT DOUBLEzcRIGHT DOUBLEmHEAV",
   "Y DOUBLE DASH HORIZONTALzeVERTICALuWNw AND HORIZONTALzbLEFTzbRIGHTsHORIZONTALsLEFTw AND LIGHT",
   " RIGHTsQUADRUPLE DASH HORIZONTALzhVERTICALsRIGHTsTRIPLE DASH HORIZONTALzeVERTICALsUPu AND HOR",
   "IZONTALzLEFTzaIGHT DOWNzRIGHTsVERTICALza AND HORIZONTALzfLEFTzfRIGHTmLEFT DOWN HEAVY AND RIGH",
   "T UP LIGHTrHEAVY AND RIGHT DOWN LIGHTzhUP LIGHTzhVERTICAL LIGHTrLIGHT AND RIGHT DOWN HEAVYzhU",
   "P HEAVYzhVERTICAL HEAVYrUP HEAVY AND RIGHT DOWN LIGHTnIGHT ARC DOWN AND LEFTzfRIGHTwUP AND LE",
   "FTzdRIGHTsDIAGONAL CROSSzbDIAMONDzbMIDDLE LEFT TO LOWER CENTREzzc TO MIDDLE RIGHTzqUPPER CENT",
   "RE TO MIDDLE RIGHTzzs TO LOWER CENTREziRIGHT TO LOWER CENTREzrUPPER CENTRE TO MIDDLE LEFT TO ",
   "LOWER CENTREzbUPPER CENTRE TO MIDDLE LEFTzzc AND MIDDLE RIGHT TO LOWER CENTREzzdTO LOWER CENT",
   "REzzs TO MIDDLE RIGHTzyRIGHTzzd AND MIDDLE LEFT TO LOWER CENTREzzeTO LOWER CENTREzzt TO MIDDL",
   "E LEFTzhLEFT TO LOWER RIGHTzhRIGHT TO LOWER LEFTtOUBLE DASH HORIZONTALzeVERTICALuWNw AND HORI",
   "ZONTALzbLEFTzbRIGHTsHORIZONTALzc WITH VERTICAL STROKEsLEFTw AND HEAVY RIGHTsQUADRUPLE DASH HO",
   "RIZONTALzhVERTICALsRIGHTsTRIPLE DASH HORIZONTALzeVERTICALsUPu AND HEAVY DOWNzaORIZONTALzLEFTz",
   "RIGHTsVERTICALza AND HORIZONTALzfLEFTzfRIGHTmRIGHT DOWN HEAVY AND LEFT UP LIGHTsHEAVY AND LEF",
   "T DOWN LIGHTzhUP LIGHTzhVERTICAL LIGHTsLIGHT AND LEFT DOWN HEAVYzhUP HEAVYzhVERTICAL HEAVYsUP",
   " HEAVY AND LEFT DOWN LIGHTmUP DOUBLE AND HORIZONTAL SINGLEzaLEFT SINGLEzaRIGHT SINGLEpHEAVY A",
   "ND DOWN HORIZONTAL LIGHTzHORIZONTAL LIGHTzLEFT DOWN LIGHTzeLIGHTzRIGHT DOWN LIGHTzfLIGHTpLIGH",
   "T AND DOWN HORIZONTAL HEAVYzHORIZONTAL HEAVYzLEFT DOWN HEAVYzeHEAVYzRIGHT DOWN HEAVYzfHEAVYpS",
   "INGLE AND HORIZONTAL DOUBLEzaLEFT DOUBLEzaRIGHT DOUBLEmVERTICAL DOUBLE AND HORIZONTAL SINGLEz",
   "gLEFT SINGLEzgRIGHT SINGLEvHEAVY AND HORIZONTAL LIGHTzfLEFT LIGHTzfRIGHT LIGHTvLIGHT AND HORI",
   "ZONTAL HEAVYzfLEFT HEAVYzfRIGHT HEAVYvSINGLE AND HORIZONTAL DOUBLEzgLEFT DOUBLEzgRIGHT DOUBLE",
   "cING GLOVEbYcS SYMBOLaPHaRAHMI DANDAhIGIT EIGHTmFIVEnOURmNINEmONEmSEVENnIXmTHREEnWOmZEROhOUBL",
   "E DANDAgLETTER AoAoIoUnBAoHAnCAoHAnDAoDApHAoHAnEnGAoHAnHAnIoInJAoHAnKAoHAnLAoLAnMAnNAoGAoNAoY",
   "AnOoLD TAMIL LLAzLAxNNNAxRRAxSHORT EzdOnPAoHAnRAnSAoHAoSAnTAoHAoTApHAnUoUnVAoOCALIC LwLvRwRnY",
   "AgNUMBER EIGHTsYnFIFTYpVEoORTYpURnJOINERnNINErTYnONEq HUNDREDrTHOUSANDnSEVENsTYoIXqTYnTENoHIR",
   "TYpREEoWENTYpOgPUNCTUATION CRESCENT BARsDOTuUBLE DOTsLINEtOTUSgSIGN ANUSVARAlCANDRABINDUlJIHV",
   "AMULIYAlOLD TAMIL VIRAMAlUPADHMANIYAlVISARGAgVIRAMAhOWEL SIGN AAsIsUrBHATTIPROLU AArErIsIrOsL",
   "D TAMIL SHORT EzhOrUsUrVOCALIC LzaLzRzaRcILLE PATTERN BLANKpDOTS-1v2w3x4y5z6za7zb8za8z7za8z8y",
   "6z7za8z8y7z8y8x5y6z7za8z8y7z8y8x6y7z8y8x7y8x8w4x5y6z7za8z8y7z8y8x6y7z8y8x7y8x8w5x6y7z8y8x7y8x",
   "8w6x7y8x8w7x8w8v3w4x5y6z7za8z8y7z8y8x6y7z8y8x7y8x8w5x6y7z8y8x7y8x8w6x7y8x8w7x8w8v4w5x6y7z8y8x",
   "7y8x8w6x7y8x8w7x8w8v5w6x7y8x8w7x8w8v6w7x8w8v7w8v8u2v3w4x5y6z7za8z8y7z8y8x6y7z8y8x7y8x8w5x6y7z",
   "8y8x7y8x8w6x7y8x8w7x8w8v4w5x6y7z8y8x7y8x8w6x7y8x8w7x8w8v5w6x7y8x8w7x8w8v6w7x8w8v7w8v8u3v4w5x6",
   "y7z8y8x7y8x8w6x7y8x8w7x8w8v5w6x7y8x8w7x8w8v6w7x8w8v7w8v8u4v5w6x7y8x8w7x8w8v6w7x8w8v7w8v8u5v6w",
   "7x8w8v7w8v8u6v7w8v8u7v8u8dNbEADdK PERMITTED HEREdST-FEEDINGcVEbICKcDE WITH VEILdGE AT NIGHTcE",
   "FCASEeSbOCCOLIcKEN BARgCIRCLE WITH NORTHWEST ARROWgHEARTcOMcWN HEARTaSaUBBLE TEAfSbCKETbGcINE",
   "SE END OF SECTIONiLETTER ApBApCApDApGApHApJApKApLApMAqPApNAqGArKAqRAqYArCApPApRApSApTApVApYAi",
   "PALLAWAiVOWEL SIGN AEtEtItOtUbHID LETTER AmBAmDAmGAmHAmImKAmLAmMAmNAnGAmPAmRAmSAmTAmUmWAmYAfV",
   "OWEL SIGN IqUbILDING CONSTRUCTIONbLLETf OPERATORdHORNh WITH SOUND WAVESdSEYEbRRITObSc STOPcT ",
   "IN SILHOUETTEdS IN SILHOUETTEbTTERfFLYaYTE ORDER MARKbZANTINE MUSICAL SYMBOL AGOGI ARGIzhOTER",
   "IzeGORGIziOTERIzeMESIzgTRIAzePOLI ARGIzjGORGIzNATRICHISMAzaTIKENOKYLISMAzgMAzPESO EKFONITIKON",
   "zfXO NEOzaLIzaODERMA ARCHAIONzhNEOzbSTROFOI SYNDESMOS NEOzjTELOUS ICHIMATOSzhSzi DIPLIzjNEOzb",
   "THEMAzRGONzcSYNTHETONzaKTIKO DIzgGAzgKEzgNIzgPAzgVOUzgZOyCHAMILIzeONzaOREVMA ARCHAIONzhNEOzaR",
   "OA KLITONzeSPATHIzeZYGOSyDASEIAzIARGONzbSTOLI APLI MEGALIznIKRIzhDIPLIzhTHESEOSzaESIS APLI DY",
   "O DODEKATAzfDIGRAMMOS EX DODEKATAzfMONOGRAMMOS TESSERA DODEKATAzfTETARTIMORIONzgRIGRAMMOS OKT",
   "O DODEKATAziTIMORIONzaFTOGGOS OUzaGORGONzg PARESTIGMENON ARISTERA ANOzzeKATOzvDEXIAzbRAMMA GG",
   "zaPLIzd ARCHAIONzYOyEKSTREPTONzLAFRONzNARXIS KAI FTHORA VOUzaDOFONONzPEGERMAzTERON ARGOSYNTHE",
   "TONzfPARAKALESMAzXO EKFONITIKONyFANEROSIS DIFONIASziMONOFONIASziTETRAFONIASzHTORA SKLIRON CHR",
   "OMA VASISzTHORA ARCHAIONzn DEYTEROU ICHOUzfDIATONIKI DIzpKEzpNANAzqI ANOzsKATOzpPAzpZOzfENARM",
   "ONIOS ANTIFONIAzfI YFESIS TETARTIMORIONzfMALAKON CHROMA DIFONIASzuMONOFONIASzfNAOS ICHOSzgENA",
   "NOzfSKLIRON CHROMA SYNAFIzuVASISznDIATONON DIyGENIKI DIESISzfYFESISzORGON ARCHAIONzfNEO ANOzj",
   "KATOzfPARESTIGMENON ARISTERAztDEXIAzdSYNTHETONzbTHMIKON N APLOUNzlDIPLOUNzRONTHISMATAyICHADIN",
   "zMIDIARGONzbFONONzcTHORAzgONzSAKIA TELOUS ICHIMATOSzaON ARCHAIONzdNEOyKATAVA TROMIKONzeSMAzbH",
   "ISTIzENTIMA ARCHAIONzgNEO ANOzkKATOzkMESOzfTAzh ARCHAIONziNEO ANOzmKATOzmMESOzLASMAze ANOzfKA",
   "TOzONTEVMAzg ALLOzaRONISzaUFISMAzRATIMA ALLOzhRCHAIONzgNEOzfTAzeOKOUFISMAzfYPORROONzaEMASTIzY",
   "LISMAyLEIMMA DYO CHRONONzfENOS CHRONOUzfIMISEOS CHRONOUzfTESSARON CHRONONzgRION CHRONONzaMOIz",
   "YGISMAyMARTYRIA ALLI DEYTEROS ICHOSzmPROTOS ICHOSzhDEYTEROS ICHOSzhLEGETOS ICHOSzhPLAGIOS ICH",
   "OSzpTETARTOS ICHOSziROTOS ICHOSzmVARYS ICHOSzhTETARTOS ICHOSzqLEGETOS ICHOSziRIFONIASzkTOS IC",
   "HOSzhVARYS ICHOSzIKRON ISONyNANAyOLIGON ARCHAIONzfNEOzMALONzXEIA DIPLIzeEKFONITIKONzeNEOzdI A",
   "RCHAIONzYRANISMA ARCHAIONziNEOyPARAKALESMA ARCHAIONzkNEOzdLITIKIzj ARCHAIONzkNEOzbICHONzELAST",
   "ONzg NEOzaRISPOMENIzaTASMAzdTIzeOKOUFISMAzIASMA ARCHAIONzfNEOzSIFISTOLYGISMAzgNzh NEOzgPARAKA",
   "LESMAzgSYNAGMAzbLIzcONyRAPISMAzEVMAySAXIMATAzEISMAze NEOzIMANSIS ARSEOSzn DISIMOUzoTETRASIMOU",
   "zpRISIMOUzhTHESEOSzo DISIMOUzpTETRASIMOUzqRISIMOUzTAVROSzf APODEXIAzaIGMAzaRAGGISMATAzYNAGMA ",
   "ARCHAIONzgMETA STAVROUzgNEOzbEVMAzaRMAzdTIKIyTELEIAzaSSERAzaTRAPLIzHEMAzd APLOUNzdTISMOS ESOz",
   "lXOzbS KAI APOTHESzaITAzINAGMAzRIAzbGORGONzbPLIzaOMIKOLYGISMAzfN ALLOziRCHAIONzhNEOzfPARAKALE",
   "SMAzgSIFISTONzfSYNAGMAyVAREIA DIPLIzfEKFONITIKONzfNEOzeI ARCHAIONzaTHYyXIRON KLASMAyYFEN ANOz",
   "dKATOzbSIS APLI DYO DODEKATAzfDIGRAMMOS EX DODEKATAzfMONOGRAMMOS TESSERA DODEKATAzfTRIGRAMMOS",
   " OKTO DODEKATAziTIMORIONzPOKRISISzh DIPLIzbRROIzaSILI"]

end Gloss.Text.CharName
