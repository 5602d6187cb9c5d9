/-! The names of characters that begin with the letter S, as pages. -/

namespace Gloss.Text.CharName

/-- The page of the letter S. -/
def pageS : List String :=
  ["S IN TRIANGLEaAFETY PINgVESTbGITTARIUSbILBOATbKE BOTTLE AND CUPbLT SHAKERdIREcUTING FACEbMARI",
   "TAN ABBREVIATION MARKjLETTER ALAFqBAArITqDALATqFIqGAMANqINrTrYqKAAFqLABATqMIMqNUNqQUFqRISHqSH",
   "ANrINGAATqTAAFrITrSAADIYqYUTqZENjMARK DAGESHoEPENTHETIC YUToINq-ALAFoNEQUDAAoOCCLUSIONkODIFIE",
   "R LETTER EPENTHETIC YUTzIzSHORT AjPUNCTUATION AFSAAQwNGEDxNAAUwRKAANUwTMAAUvBAUvMELODIC QITSA",
   "vNEQUDAAvQITSAvSHIYYAALAAwOF MASHFAATvTURUvZAEFwIQAAjVOWEL SIGN AvAuEuIuLONG AzaAzEzIzUuOvVER",
   "LONG AzeAuSHORT AvUKUNuUbNDWICHcS-SERIF HEAVY DOUBLE COMMA QUOTATION MARK ORNAMENTxTURNED COM",
   "MA QUOTATION MARK ORNAMENTqLOW DOUBLE COMMA QUOTATION MARK ORNAMENTkINTERROBANG ORNAMENTbRIbT",
   "ELLITEi ANTENNAcURNbURASHTRA CONSONANT SIGN HAARUkDANDAlIGIT EIGHTqFIVErOURqNINEqONEqSEVENrIX",
   "qTHREErWOqZEROlOUBLE DANDAkLETTER AsAsIsUrBAsHArCAsHArDAsDAtHAsHArEsErGAsHArHArIsIrJAsHArKAsH",
   "ArLAsLArMArNAsGAsNAsYArOsOrPAsHArRArSAsHAsSArTAsHAsTAtHArUsUrVAsOCALIC LzaLzRzaRrYAkSIGN ANUS",
   "VARApCANDRABINDUpVIRAMArSARGAkVOWEL SIGN AAwIwUvEwEvIwIvOwOvUwUvVOCALIC LzeLzdRzeRdOPODbXOPHO",
   "NEaCALEScRFbHOOLf SATCHELbIbOOTERcRPIONfUSbREENdWDRIVERcIPT CAPITAL BoEoFoHoIoLoMoPoRgLIGATUR",
   "E ET ORNAMENTgSMALL EmGmLmOcOLLcUPLEaEALcTbCOND PLACE MEDALcTION SIGNdORbDNAbE-NO-EVIL MONKEY",
   "cDLINGbGMENTgED DIGIT EIGHTpFIVEqOURpNINEpONEpSEVENqIXpTHREEqWOpZERObLFIEbMICOLONdDIRECT PROD",
   "UCT WITH BOTTOM CLOSEDdSEXTILEbPARATED SYMBOLbRIOUS FACE WITH SYMBOLS COVERING MOUTHcVICE MAR",
   "KbSAME DOTcQUIQUADRATEbT MINUSdTRANSMIT STATEbWING NEEDLEbXTILEaGCaHADOWED WHITE CIRCLEoLATIN",
   " CROSSoSTARcLLOW PAN OF FOODcMROCKcRADA ABBREVIATION SIGNhCONTINUATION SIGNhDANDAiIGIT EIGHTn",
   "FIVEoOURnNINEnONEnSEVENoIXnTHREEoWOnZEROiOUBLE DANDAhEKAMiXTRA SHORT VOWEL MARKhHEADSTROKEhLE",
   "TTER ApApIpUoBApHAoCApHAoDApDAqHApHAoEoGApHAoHAoIpIoJApHAoKApHAoLApLAoMAoNApGApNApYAoOoPApHAo",
   "RAoSApHApSAoTApHApTAqHAoUpUoVApOCALIC LxLwRxRoYAhOMhSANDHI MARKiECTION MARK-1u2jPARATORiIGN A",
   "NUSVARAnVAGRAHAmCANDRABINDUmINVERTED CANDRABINDUmJIHVAMULIYAmNUKTAmSIDDHAMmUPADHMANIYAmVIRAMA",
   "oSARGAiUTRA MARKhVOWEL MODIFIER MARKnSIGN AAtItUsEsItIsOsPRISHTHAMATRA EsUtUsVOCALIC LzbLzaRz",
   "bRdKcVED ICEdIAN LETTER ADOpGEpHpIRpREqRAYpSHpWEoBIBoCHURCHoDEADoEARqTpGGpRRoFEEoGAGoHA-HApUN",
   "GoIANpCEpFoJUDGEoKICKoLOLLoMEASUREpIMEoNUNoOAKpILpNpOZEpRpUToPEEPoROARoSOpUREoTHEYqIGHpOToUPo",
   "VOWoWOEqOLoYEAqWoZOObEEPbIELDcFT INfOUTcNTO SHRINEcPbOCKED FACE WITH EXPLODING HEADcOTING STA",
   "RcPPING BAGSiTROLLEYcRT BACKSLANTED SOUTH ARROWgENT ARROW POINTING DOWNWARDS THEN NORTH EASTf",
   "DOWN TACKo WITH OVERBARfLEFT TACKfRIGHTWARDS ARROW ABOVE LEFTWARDS ARROWfSLANTED NORTH ARROWf",
   "UP TACKm ABOVE SHORT DOWN TACKnWITH UNDERBAReCAKEeHAND FORMAT CONTINUING OVERLAPqDOWN STEPqLE",
   "TTER OVERLAPqUP STEPeScULDERED OPEN BOXcWERbRIMPcUGbUFFLE PRODUCTbYaIbDDHAM DANDAiOUBLE DANDA",
   "hEND OF TEXT MARKhLETTER ApApIpLTERNATE UpUoBApHAoCApHAoDApDAqHApHAoEoGApHAoHAoIpIoJApHAoKApH",
   "AoLAoMAoNApGApNApYAoOoPApHAoRAoSApHApSAoTApHAqREE-CIRCLE ALTERNATE IpTAqHApWO-CIRCLE ALTERNAT",
   "E IzkIoUpUoVApOCALIC LxLwRxRoYAhREPETITION MARK-1x2x3hSECTION MARK DOUBLE RINGzf WITH RAYSuWI",
   "TH CIRCLES AND FOUR ENCLOSURESzlRAYSzlTWO ENCLOSURESzDOUBLE CRESCENTSzQUADRUPLE CRESCENTSzRAY",
   "S AND DOTTED CRESCENTSzpDOUBLE CRESCENTSzpTRIPLE CRESCENTSzSEPTUPLE CRESCENTSzTRIDENT AND DOT",
   "TED CRESCENTSzlU-SHAPED ORNAMENTSzcPLE CRESCENTSjPARATOR BARrDOTiIGN ANUSVARAmCANDRABINDUmNUK",
   "TAmSIDDHAMmVIRAMAoSARGAhVOWEL SIGN AAtItLTERNATE UzdUtUsEsItIsOsUtUsVOCALIC RzbRcEWAYS BLACK ",
   "DOWN POINTING INDEXoLEFT POINTING INDEXoRIGHT POINTING INDEXoUP POINTING INDEXiWHITE DOWN POI",
   "NTING INDEXoLEFT POINTING INDEXoRIGHT POINTING INDEXoUP POINTING INDEXbGN OF THE HORNSdWRITIN",
   "G AIR BLOW SMALL ROTATIONStING OUTpSUCK SMALL ROTATIONStING INlBREATH EXHALEsINHALEnUSH BETWE",
   "ENrMULTIPLErSINGLElCHEEKS NEUTRALsPUFFEDsSUCKEDmOLONnMMAlDREAMY EYEBROWS DOWN NEUTRALzbNEUTRA",
   "L DOWNzjUPzbUP NEUTRALmYNAMIC ARROWHEAD LARGEzdSMALLtEVERY OTHER TIMEtFASTtGRADUALtRELAXEDtSI",
   "MULTANEOUSzf ALTERNATINGuLOWtTENSElEARSmXCITEMENTmYE BLINK MULTIPLEvSINGLEpWINKoBROWS STRAIGH",
   "T DOWNzdNEUTRALzdUPoGAZE-FLOORPLANE CURVEDzeSTRAIGHTzm ALTERNATINGznDOUBLEtWALLPLANE CIRCLING",
   "zeURVEDzdSTRAIGHTzl ALTERNATINGzmDOUBLEoLASHES DOWNvFLUTTERINGvUPoS CLOSEDqHALF CLOSEDvOPENqO",
   "PENqSQUEEZEDqWIDE OPENuNING MOVEMENTlFACE DIRECTION POSITION NOSE FORWARD TILTINGzoUP OR DOWN",
   "zy TILTINGmILL MODIFIER-2z3z4z5z6nNGERmLICK LARGE MULTIPLExSINGLErSEQUENTIALsMALL MULTIPLExSI",
   "NGLEnOORPLANE SHOULDER HIP MOVEmOREHEAD CONTACTuNEUTRALuWRINKLEDmULL STOPlGRASP BETWEENrMULTI",
   "PLErSINGLElHAIRnND-ANGLEv INDEXzb MIDDLE LITTLEzjRINGzcRING LITTLEzn OUTzcTHUMBzh INziOUTwLIT",
   "TLE INDEXzi THUMB INDEX THUMBzza OUTzdUPwMIDDLE RING LITTLEzo INzpOUTwRING DOWN MIDDLE THUMB ",
   "INDEX CROSSzbLITTLEqCIRCLEw INDEXzc BENTzdHINGEzdMIDDLEzj CROSS LITTLEzpEDzkLITTLEzkRINGzkTHU",
   "MBzdRING LITTLExLITTLE INDEXzeUPxMIDDLE RING LITTLEzp BENTzeUPxRING LITTLErLAWu FOUR FINGERS ",
   "CONJOINEDvINDEX THUMB CURVE THUMB INSIDEvMIDDLE RING LITTLE CONJOINEDzx SIDEvNO THUMBvTHUMB F",
   "ORWARDzbSIDErUPt FIVE FINGERS SPREADzn OPENuINDEXz RING LITTLEzaTHUMBzf OPENuMIDDLE RING LITT",
   "LEuNO THUMBuOPENy NO THUMBzTHUMB FORWARDzfSIDEuTHUMB FORWARDzaSIDEsRLICUEy INDEX RING LITTLE ",
   "ONzMIDDLE RING LITTLE ONzOPENqFISTu FOUR FINGERS CONJOINED BENTvHEELvINDEXza BENTzf OVER MIDD",
   "LEzbCUPPEDzbHINGEDzh LOWziMIDDLE UPzr THUMB SIDEzbMIDDLEzh BENTzm THUMB STRAIGHTziCONJOINEDzr",
   " CUPPEDzy THUMB FORWARDzsHINGEDzy THUMB SIDEzsINDEX BENTzsMIDDLE BENTzsTHUMB FORWARDzySIDEzzc",
   " BENTzzdCONJOINEDzjROSS LITTLEznEDzp THUMB SIDEziHINGEDzo SPREAD THUMB SIDEziLITTLEziRAISED K",
   "NUCKLESzjINGzm BENTznCONJOINEDziSTRAIGHT THUMB BENTziTHUMBzn ANGLEDzu OUTzoBENTzoCIRCLEDzpONJ",
   "OINED HINGEDzpUPPEDzoHINGEDzpOOKEDziUP SPREAD THUMB FORWARDzbRAISED KNUCKLEzcING LITTLEzbTHUM",
   "B ANGLED IN MIDDLE UPzoOUT MIDDLE UPzhCIRCLEznD MIDDLE UPziUPPED MIDDLE UPzjRLICUEzkVE THUMB ",
   "INSIDEztUNDERzhFORWARD INDEX BENTzvSTRAIGHTzhHOOKzlED MIDDLE HINGEDzvUPzhSIDEzl BOTH BENTzmIN",
   "DEX BENTzsHINGEzmTHUMB BENTzsCONJOINEDzsDIAGONALzbUP MIDDLE HINGEDzr THUMB CONJOINEDzySIDEvLI",
   "TTLE BENTzcDOWNzg OTHERS CIRCLEDzhRIPPLE CURVEDzoSTRAIGHTzcINDEXzh THUMBzcRAISED KNUCKLEzcTHU",
   "MBzdOUCHES THUMBzcUPvMIDDLE BENT OVER INDEXzcDOWNzcLITTLEzcRAISED KNUCKLEzdING LITTLEzcTHUMB ",
   "ANGLED INDEX UPzpOUT INDEX CROSSEDzzUPziCIRCLED INDEX HINGEDzwUPzjUPPED INDEX UPziHOOKED INDE",
   "X UPziLITTLEzcUPze THUMB SIDEvRING DOWNzaINDEXzaLITTLEzaMIDDLEzg CONJOINEDzhRAISED KNUCKLESza",
   "RAISED KNUCKLEzaTHUMBzaUPvTHUMBza BETWEEN INDEX MIDDLEzv STRAIGHTzjMIDDLE RINGzjRING LITTLEzb",
   "FORWARDzbHEELzbOVER FOUR RAISED KNUCKLESzgTWO FINGERSzbSIDE BENTzgCONJOINEDzgDIAGONALzbUNDER ",
   "FOUR FINGERSzhINDEX BENTzhLITTLE UPzhTHREE FINGERSziWO FINGERSrLATu BETWEEN PALM FACINGSvFIVE",
   " FINGERS SPREADzo BENTzpFOUR BENTzpHINGEDzv NO THUMBzwTHUMB SIDEzpTHUMB FORWARDwOUR FINGERSzh",
   " BENTziCONJOINEDzr SPLITziHINGEDvHEELz FIVE FINGERS SPREADzt BENTzuFOUR BENTzaTHUMB SIDEvSPLI",
   "T CENTREzh THUMB SIDEzs BENTzbINDEX THUMB SIDEzbLITTLEvTHUMB BENTzbFORWARDzbSIDEqHINGEv FIVE ",
   "FINGERS SPREAD OPENxOUR FINGERS CONJOINEDwINDEXzb HINGEDzcMIDDLE LITTLEzjRINGzn CONJOINEDzcRI",
   "NG LITTLEzcTHUMBzh LARGEziOPENziSIDEzjMALLwLITTLEzc INDEXzi THUMBzdTHUMBwMIDDLEzc RING LITTLE",
   "wNO THUMBwOPENza NO THUMBzbTHUMB FORWARDzhSIDEwRINGza DOWN INDEX THUMB HOOK MIDDLEwSMALLwTHUM",
   "B BETWEEN MIDDLE RINGzcSIDEzg TOUCHING INDEXrOOKu CURLICUEvINDEX RING LITTLE INznOUTznUNDERvM",
   "IDDLE RING LITTLE CONJOINEDzx INzyOUTzcTHUMBvRING THUMBqOVALu FIVE FINGERS SPREADvINDEXvLITTL",
   "E UPvNO THUMBvRING LITTLEvTHUMB FORWARDzbSIDEmEADp MOVEMENT CIRCLEy-FLOORPLANE CURVEzkSTRAIGH",
   "TzWALLPLANE CURVEzjSTRAIGHTzjTILTqRIMlLIMB COMBINATIONqLENGTH-1x2x3x4x5x6x7nP LOWER OVER UPPE",
   "RpUPPER OVER LOWERoS PRESSED TOGETHERmOCATION DEPTHuHEAD NECKwIGHTuLIMBS DIGITSuTORSOuWIDTHt-",
   "FLOORPLANE SPACEuWALLPLANE SPACElMOUTH CLOSED CONTACTyFORWARDyNEUTRALsORNERSrFROWNw OPENxWRIN",
   "KLEDrKISSv FORWARDwWRINKLEDrOPEN CIRCLEwFORWARDwOVALza WRINKLEDzbYAWNwRECTANGLEzf WRINKLEDzgY",
   "AWNwWRINKLEDrSMILEw OPENxWRINKLEDrTENSEw FORWARDxSUCKEDrWRINKLES DOUBLEzaSINGLEnVEMENT-DIAGON",
   "AL AWAY LARGEznSTziMEDIUMziSMALLzdBETWEEN AWAY LARGEzvSTzqMEDIUMzqSMALLzlTOWARDS LARGEzySTztM",
   "EDIUMztSMALLzdTOWARDS LARGEzqSTzlMEDIUMzlSMALLuFLOORPLANE ARM CIRCLE HITTING WALL LARGE DOUBL",
   "EzzjSINGLEzzdMEDIUM DOUBLEzzkSINGLEzzdSMALL DOUBLEzzjSINGLEzfBENDzgOX LARGEzjMEDIUMzjSMALLzfC",
   "HECKzgORNER LARGEzmMEDIUMzmSMALLzgROSSzgURVE COMBINEDzlHITTING CEILING LARGEzzbSMALLztFLOOR L",
   "ARGEzzSMALLzlLARGEzqSTzlMEDIUMzlSMALLzfDOUBLE ALTERNATINGzx WRIST FLEXzmSTRAIGHTzmWRIST FLEXz",
   "fFINGER CIRCLES HITTING WALL DOUBLEzzhSINGLEznONTACTzfHUMP HITTING CEILING LARGE DOUBLEzzgTRI",
   "PLEzzaSMALL DOUBLEzzgTRIPLEzsFLOOR LARGE DOUBLEzySMALL DOUBLEzyTRIPLE LARGE TRIPLEzzfSMALL TR",
   "IPLEzkSMALLzfJAWzfLOOP HITTING CEILING LARGE DOUBLEzzgSINGLEzzaSMALL DOUBLEzzgSINGLEzsFLOOR L",
   "ARGE DOUBLEzzeSINGLEzySMALL DOUBLEzzeSINGLEzkSMALLzfPEAKS LARGEzlMEDIUMzlSMALLzfSHAKING PARAL",
   "LELzgINGLE STRAIGHT LARGEzzaSTzvMEDIUMzvSMALLzmWRIST FLEXzfTRIPLE ALTERNATING MOVEMENTzyWRIST",
   " FLEXzmSTRAIGHT MOVEMENTzmWRIST FLEXzfWAVE HITTING CEILING LARGEzzaSMALLzsFLOOR LARGEzySMALLz",
   "kLARGEzkSMALLzlNAKEzgRIST CIRCLE HITTING WALL DOUBLEzzfSINGLEzfZIGZAG LARGEzmMEDIUMzmSMALLuHI",
   "NGE DOWN SEQUENTIALzaSIDE TO SIDE SCISSORSzaUP DOWN ALTERNATING LARGEzuSMALLziLARGEziSMALLzdS",
   "EQUENTIALuWALLPLANE ARM CIRCLE MEDIUM DOUBLEzwSINGLEzpSMALL DOUBLEzvSINGLEzeBEND LARGEzjMEDIU",
   "MzjSMALLzfOX LARGEziMEDIUMziSMALLzeCHECK LARGEzkMEDIUMzkSMALLzfORNER LARGEzlMEDIUMzlROTATIONz",
   "lSMALLzfROSSzfURVE HALF-CIRCLE LARGEzzbSTzwMEDIUMzwSMALLzlITTING CHESTzsFRONT WALLzkQUARTER L",
   "ARGEzxSTzsMEDIUMzsSMALLzkTHEN STRAIGHTzmREE-QUARTER CIRCLE MEDIUMzzfSMALLzjD CROSS MEDIUMzrSM",
   "ALLzeDOUBLE ALTERNATINGzw WRIST FLEXzlSTRAIGHTzlWRIST FLEXzeFINGER CIRCLES DOUBLEztSINGLEzmON",
   "TACTzeHUMP HITTING CHESTzrFRONT WALLzjLARGEzjMEDIUMzjSMALLzeJAWzeLOOP HITTING CHESTzrFRONT WA",
   "LLzjLARGEzjMEDIUMzjSMALLzo DOUBLEzePEAKS LARGEzkMEDIUMzkSMALLzeSHAKINGzfINGLE STRAIGHT LARGEz",
   "zSTzuMEDIUMzuSMALLzlWRIST FLEXzeTRIPLE ALTERNATINGzw WRIST FLEXzlSTRAIGHT MOVEMENTzlWRIST FLE",
   "XzeWAVE CURVE DOUBLE LARGEzwMEDIUMzwSMALLzpTRIPLE LARGEzwMEDIUMzwSMALLzjDIAGONAL PATH LARGEzx",
   "MEDIUMzxSMALLzjHITTING CHESTzrFRONT WALLzfRIST CIRCLE FRONT DOUBLEzxSINGLEzeZIGZAG LARGEzlMED",
   "IUMzlSMALLlNECKmOSE CONTACTqNEUTRALqWIGGLESrRINKLESlPARENTHESISlROTATION MODIFIER-10ze1ze2ze3",
   "ze4ze5ze6zd2zd3zd4zd5zd6zd7zd8zd9t-FLOORPLANE ALTERNATINGzq HITTING CEILINGzzFLOORzfDOUBLEzl ",
   "HITTING CEILINGzuFLOORzfSINGLEzl HITTING CEILINGzuFLOORuWALLPLANE ALTERNATEzmING HITTING CHES",
   "TzyFRONT WALLzeDOUBLEzk HITTING CHESTztFRONT WALLzeSINGLEzk HITTING CHESTztFRONT WALLmUB BETW",
   "EENpMULTIPLEpSINGLElSEMICOLONmHOULDER HIP POSITIONSySPINEuTILTING FROM WAISTmQUEEZE FLICK ALT",
   "ERNATINGtLARGE MULTIPLEzSINGLEtSEQUENTIALuMALL MULTIPLEzSINGLEmTRIKE BETWEENsMULTIPLEsSINGLEm",
   "URFACE BETWEENtSYMBOLSlTEETHq BITE LIPSrMOVEMENTrON LIPSy MOVEMENTuTONGUEza MOVEMENTnNSE CHEE",
   "KS HIGHyLOWyMIDDLEmONGUE CENTRE INSIDE MOUTHzSTICKING OUTsINSIDE MOUTH RELAXEDsLICKING LIPSsM",
   "OVES AGAINST CHEEKsSTICKING OUT FARsTIP BETWEEN LIPSwTOUCHING INSIDE MOUTHnRSO-FLOORPLANE TWI",
   "STINGrWALLPLANE CURVED BENDzbSTRAIGHT STRETCHnUCH BETWEENrMULTIPLErSINGLEmRAVEL-FLOORPLANE RO",
   "TATION-FLOORPLANE ALTERNATINGzxDOUBLEzxSINGLEzmWALLPLANE ALTERNATINGzwDOUBLEzwSINGLEzdSHAKING",
   "sWALLPLANE ARM SPIRAL DOUBLEznSINGLEznTRIPLEzcROTATION-FLOORPLANE ALTERNATINGzwDOUBLEzwSINGLE",
   "zlWALLPLANE ALTERNATINGzvDOUBLEzvSINGLEzcSHAKINGlUPPER BODY TILTING FROM HIP JOINTSlWALLPLANE",
   " SHOULDER HIP MOVEbLHOUETTE OF JAPANbMILAR ABOVE GREATER-THAN ABOVE EQUALS SIGNnLESS-THAN ABO",
   "VE EQUALS SIGNhMINUS SIMILARhOR GREATER-THANkLESS-THANbNE WAVEcGLE CHARACTER INTRODUCERgGRAPH",
   "IC CHARACTER INTRODUCERgHIGH-REVERSED-9 QUOTATION MARKgLEFT-POINTING ANGLE QUOTATION MARKhOW-",
   "9 QUOTATION MARKgRIGHT-POINTING ANGLE QUOTATION MARKgSHIFT THREEnWOf-SHIFT-2m3cHALA ARCHAIC D",
   "IGIT EIGHTvFIVEwOURvNINEvONEvSEVENwIXvTHREEwWOpNUMBER EIGHTYwFIFTYxORTYwNINETYwONE HUNDREDzaT",
   "HOUSANDwSEVENTYxIXTYwTENxHIRTYxWENTYhLETTER AAYANNApEEYANNAqYANNApIYANNApLPAPRAANA BAYANNAzCA",
   "YANNAzDAYANNAzaDAYANNAzGAYANNAzJAYANNAzKAYANNAzPAYANNAzTAYANNAzaTAYANNApMBA BAYANNApUYANNApYA",
   "NNAoDANTAJA LAYANNAwNAYANNAwSAYANNAoEEYANNApYANNAoFAYANNAoHAYANNAoIIYANNApLUUYANNArYANNApRUUY",
   "ANNArYANNApYANNAoKANTAJA NAASIKYAYAoMAHAAPRAANA BAYANNAzaCAYANNAzaDAYANNAzbDAYANNAzaGAYANNAza",
   "JAYANNAzaKAYANNAzaPAYANNAzaTAYANNAzbTAYANNAqYANNApUURDHAJA LAYANNAyNAYANNAySAYANNAoOOYANNApYA",
   "NNAoRAYANNAoSANYAKA DAYANNAxDAYANNAwGAYANNAwJAYANNAoTAALUJA NAASIKYAYAwSANYOOGA NAAKSIKYAYAyY",
   "ANNAoUUYANNApYANNAoVAYANNAoYAYANNAiITH DIGIT EIGHTsFIVEtOURsNINEsONEsSEVENtIXsTHREEtWOsZEROhP",
   "UNCTUATION KUNDDALIYAhSIGN AL-LAKUNAnNUSVARAYAmCANDRABINDUmVISARGAYAhVOWEL SIGN AELA-PILLAsDI",
   "GA AEDA-PILLAxGAETTA-PILLAzYANUKITTAxIS-PILLAxKOMBUVAxPAA-PILLAsGAETTA-PILLAuYANUKITTAsKETTI ",
   "AEDA-PILLAyIS-PILLAyPAA-PILLAtOMBU DEKAxVAz HAA AELA-PILLAzeDIGA AELA-PILLAzeGAYANUKITTAbX PE",
   "TALLED BLACK AND WHITE FLORETTEeOINTED BLACK STARlPINWHEEL STARlSTAR WITH MIDDLE DOTc-PER-EM ",
   "SPACEcTEEN POINTED ASTERISKaKATEBOARDbI AND SKI BOOTcERbULLe AND CROSSBONEScNKaLANTED EQUAL T",
   "O OR GREATER-THANzf WITH DOT INSIDEtLESS-THANzc WITH DOT INSIDEhNORTH ARROW WITH HOOKED HEADz",
   "aRIZONTAL TAILcVONIC ASTERISKbEDcEPING ACCOMMODATIONiFACEiSYMBOLeY FACEcUTH OR SPYbICE OF PIZ",
   "ZAcGHTLY FROWNING FACEiSMILING FACEbOPEdING LARGE ANDnORcT MACHINEdHaMALL AIRPLANEgMPERSANDgS",
   "TERISKfBLUE DIAMONDfCOLONhMMAjERCIAL AThNTAINS AS MEMBERoWITH OVERBARtVERTICAL BAR AT END OF ",
   "HORIZONTAL STROKEfDOLLAR SIGNfELEMENT OFp WITH OVERBARvVERTICAL BAR AT END OF HORIZONTAL STRO",
   "KEgM DASHgQUALS SIGNgXCLAMATION MARKfFULL STOPfGREATER-THAN SIGNfHYPHEN-MINUSfIDEOGRAPHIC COM",
   "MAfLEFT CURLY BRACKETkPARENTHESISkTORTOISE SHELL BRACKEThSS-THAN SIGNfNUMBER SIGNfORANGE DIAM",
   "ONDfPERCENT SIGNgLUS SIGNfQUESTION MARKfREVERSE SOLIDUSgIGHT CURLY BRACKETlPARENTHESISlTORTOI",
   "SE SHELL BRACKETgOMAN NUMERAL EIGHTuLEVENtFIFTYvVEx HUNDREDuOURtNINEtONEw HUNDREDxTHOUSANDtSE",
   "VENuIXtTENuHREEuWELVEvOfSEMICOLONfTILDEgWO DOTS OVER ONE DOT PUNCTUATIONfVEE WITH UNDERBAReER",
   " THANl OR EQUAL TOcSH PRODUCTbILEdING CAT FACE WITH HEART-SHAPED EYESvOPEN MOUTHhFACE WITH HA",
   "LOsEART-SHAPED EYESsORNSrOPEN MOUTHzb AND COLD SWEATzgSMILING EYESzgTIGHTLY-CLOSED EYESrSMILI",
   "NG EYESzd AND HAND COVERING MOUTHziTHREE HEARTSsUNGLASSESrTEARcRKING FACEbOKING SYMBOLaNAILcK",
   "EbEEZING FACEbOW CAPPED MOUNTAINdBOARDERdFLAKEdMANg WITHOUT SNOWaObCCER BALLcKSbFT HYPHENeICE",
   " CREAMeSHELL FLOPPY DISKdBALLdWARE-FUNCTION SYMBOLbGDIAN COMBINING CURVE ABOVExBELOWrDOT ABOV",
   "EvBELOWrHOOK ABOVEwBELOWrLONG HOOK BELOWrRESH BELOWrSTROKE BELOWrTWO DOTS ABOVEzaBELOWhINDEPE",
   "NDENT SHINhLETTER ALEPHpYINoBETHoFETHoGIMELoHEqTHoKAPHoLAMEDHpESHoMEMoNUNoPEoRESH-AYINoSADHEq",
   "MEKHpHINoTAWoWAWoYODHoZAYINhNUMBER ONEr HUNDREDoTENpWENTYhPUNCTUATION CIRCLE WITH DOTtHALF CI",
   "RCLE WITH DOTtTWO CIRCLES WITH DOTSxVERTICAL BARSzk WITH DOTSbHbLID QUILT SQUARE ORNAMENTza I",
   "N BLACK SQUAREeUSg WITH OVERBARbM SIGNbON WITH RIGHTWARDS ARROW ABOVEbRA SOMPENG DIGIT EIGHTs",
   "FIVEtOURsNINEsONEsSEVENtIXsTHREEtWOsZEROmLETTER AHtBAHtCAHtDAHtEEHuHtGAHtHAHtIHtJAHtKAHtLAHtM",
   "AEvHtNAHuGAHuYAHtOHtPAHtRAHtSAHtTAHtUHtVAHtYAHbSbUND RECORDING COPYRIGHTcTH EAST ARROWp AND S",
   "OUTH WEST ARROWqCROSSING NORTH EAST ARROWqTO CORNERqWITH HOOKkBLACK ARROWkDOUBLE ARROWkPOINTI",
   "NG BUDtLEAFtVINE LEAFkSANS-SERIF ARROWkTRIANGLE-HEADED ARROWzf TO BARkWHITE ARROWfWEST ARROWp",
   " AND NORTH WEST ARROWqWITH HOOKkBLACK ARROWkDOUBLE ARROWkPOINTING BUDtLEAFtVINE LEAFkSANS-SER",
   "IF ARROWkTRIANGLE-HEADED ARROWzf TO BARkWHITE ARROWbYOMBO CLUSTER-INITIAL LETTER LAzeRAzeSAzf",
   "HAhFINAL CONSONANT SIGN -AzcBzcDzcGzcKzcLzcMzcNzdGzcRzcSzdHhGEMINATION MARKhHEAD MARK WITH MO",
   "ON AND SUNzi AND FLAMEznTRIPLE FLAMEhLETTER -AoAoBApHAoCApHAoDApDAqHApHApZAoGApHAoHAoJApHAoKA",
   "pHApSSAoLAoMAoNApGApNApYAoPApHAoRAoSApHApSAoTApHApSAqHApTAqHAoVAoYAoZApHAhMARK DOUBLE SHADmPL",
   "UTAmSHADmTSHEGhSIGN ANUSVARAmJIHVAMULIYAmUPADHMANIYAmVISARGAiUBJOINERhTERMINAL MARK-1v2hVOWEL",
   " LENGTH MARKnSIGN AItUsEsIsOtEsUtEsVOCALIC LzaRaPbAcCEcGHETTIcRKLEgSfING HEARTbEAK-NO-EVIL MO",
   "NKEYeERg WITH CANCELLATION STROKEmONE SOUND WAVEmTHREE SOUND WAVESeING HEAD IN SILHOUETTEcECH",
   " BALLOONdDBOATcSMILO SIGNbHERICAL ANGLEo OPENING LEFTxUPbIDERf WEBcRAL CALENDAR PADgNOTE PADg",
   "SHELLbLASHING SWEAT SYMBOLbONGEcOL OF THREADdNcRTS MEDALcUTING WHALEaQUARE A OVER MhARUhMhNPE",
   "AhPAATOhRUHUAhUgBAARERUiRhEETAhIRUhORUTOhQhUSSYERUgC OVER KGhALiPhChDhMi CUBEDjSQUAREDhOiRPOR",
   "ATIONhUPgDAiASUhBhESIhJhLhMi CUBEDjSQUAREDhORUgEEKAAhRA NAME HEISEIpMEIZIpREIWApSYOUWApTAISYO",
   "UiGhSUKUUDOhVgFMhOOTiUR CORNERSgGALiNMAiRONhBhHZhIGAiNIIiRUDAAhPAhURAMUmTONhYgHAiITUhEKUTAARU",
   "iRUTUhGhIRAGANA HOKAhONiONjRUhPiAhUARADDOiIITOiRANhZgIMAGE OFo OR EQUAL TOsNOT EQUAL TOhNiING",
   "UiTIhUgK OHMhAiIRIiRATTOjORIIhBhCALhEESUhGhHZhIROkGURAMUkMEETORUkWATTOhKhLhMi CAPITALkUBEDjSQ",
   "UAREDhOOPOiRUNAhPAhThUROONEjUZEIROhVhWhYURIIgLEFT OPEN BOX OPERATORhMhNhOGiZENGEhXgM CUBEDiOH",
   "MjVER So SQUAREDiSQUAREDhAiHHAiIKUROjRUiNSYONiRUKUhBi SMALLhEETORUiGAkTONhGhHZhIKURONiLiRIkBA",
   "ARUhLhMi CUBEDjSQUAREDhOLhPAhShU AjFjGjLjMjSjVjWhVi MEGAhWi MEGAgNAiNOhFhMhOTTOhShVhWgONSUhOM",
   "UhRIGINAL OFr OR EQUAL TOvNOT EQUAL TOhVgPAi AMPSiASENTOjTUhChEEZIiNIHIjSUiSOhFhHhIASUTORUiKO",
   "jURUhMhOINTOiNDOiSITION INDICATORhPMhRhShVhWgRADj OVER Sq SQUAREDhEMUiNTOGENhIGHT OPEN BOX OP",
   "ERATORiRAiTTORUhOOThUPIIiUBURUgSAIKURUiNTIIMUhENTIkOhIRINGUhRhVgTARGEThHZhONgUONgV OVER MgWAT",
   "TOhBhITH BOTTOM HALF BLACKlCONTOURED OUTLINElDIAGONAL CROSSHATCH FILLlHORIZONTAL FILLlLEFT HA",
   "LF BLACKmOWER LEFT DIAGONAL HALF BLACKrRIGHT DIAGONAL HALF BLACKlORTHOGONAL CROSSHATCH FILLlR",
   "IGHT HALF BLACKlTOP HALF BLACKlUPPER LEFT DIAGONAL HALF BLACKwTO LOWER RIGHT FILLrRIGHT DIAGO",
   "NAL HALF BLACKxTO LOWER LEFT FILLlVERTICAL FILLgYAADOjRUhUANfD ASTERISKhCJK UNIFIED IDEOGRAPH",
   "-4E00zg9zf2Dzf8CzfA4zd518Dze21Dzf4Dzf72ze3CCzfF3ze408zf39ze5B6ze8F0ze91Azf29zeB57zeDE6zeF8Czd",
   "624Bzf53zf95ze307zf55ze599zfB0ze620ze708zg9zeE80zeF14zd7121ze51Fzf33ze981zeA7AzeD42zd89E3zeCA",
   "9zeD70zd904Aze14DiLiOOLhDOT OPERATORhEIGHT KhFALLING DIAGONAL SLASHiIVE POINT ONEiOUR DOT PUN",
   "CTUATIONmKiREEhHCiDRiI-RESiVhIDhKATAKANA DEqKOKOqSAiEYhLATIN CAPITAL LETTER AzcBzcCzcDzcEzcFz",
   "cGzcHzcIzcJzcKzcLzcMzcNzcOzcPzcQzcRzcSzcTzcUzcVzcWzcXzcYzcZnSMALL LETTER DiOGICAL ANDpORjSSLE",
   "SShMINUSiVhNEWiGhOKiNE HUNDRED TWENTY PhPLUSiPVhRISING DIAGONAL SLASHhSALTIREiDiECOND SCREENj",
   "VEN POINT ONEiHViIXTY PiMALL CIRCLEiOSiQUAREiShTHREE DiIMESiWENTY-TWO POINT TWOjO KhUHDiP WIT",
   "H EXCLAMATION MARKhVODiShWCdT BLACK RIGHTWARDS ARROWcIDaS2b3bAaTbADIUMcFF OF AESCULAPIUSiHERM",
   "EScMPED ENVELOPEcNDING PERSONcR AND CRESCENTeEQUALSeOF DAVIDfPERATOReWITH LEFT HALF BLACKjRIG",
   "HT HALF BLACKdT OF GUARDED AREAiHEADINGiPROTECTED AREAiSELECTED AREAjTRINGiTEXTcTIONdUE OF LI",
   "BERTYbEAM LOCOMOTIVEeING BOWLcNOGRAPHIC FULL STOPcTHOSCOPEbICK FIGUREl LEANING LEFTuRIGHTmWIT",
   "H ARMS RAISEDrDRESSbOCK CHARTcPWATCHbRAIGHT RULERhNESSdWBERRYcESS OUTLINED WHITE STARcICTLY E",
   "QUIVALENT TOdNG TERMINATORbSbUDIO MICROPHONEcFFED FLATBREADcPAbXaUBcSCRIPT EIGHTkQUALS SIGNjF",
   "IVEkOURjLEFT PARENTHESISjMINUSjNINEjONEjPLUS SIGNjRIGHT PARENTHESISjSEVENkIXjTHREEkWOjZEROdET",
   " ABOVE RIGHTWARDS ARROWmSUBSEToPERSETgOFi ABOVE ALMOST EQUAL TOpEQUALS SIGNpNOT EQUAL TOpTILD",
   "E OPERATORjOR EQUAL TOu WITH DOT ABOVEjWITH NOT EQUAL TOgWITH DOTlMULTIPLICATION SIGN BELOWlP",
   "LUS SIGN BELOWdTITUTEbCCEEDSh ABOVE ALMOST EQUAL TOoEQUALS SIGNoNOT ALMOST EQUAL TOsEQUAL TOo",
   "SINGLE-LINE EQUALS SIGNzaNOT EQUAL TOiBUT NOT EQUIVALENT TOiOR EQUAL TOoIVALENT TOiUNDER RELA",
   "TIONbMMATION BOTTOMjTOPjWITH INTEGRALbNc BEHIND CLOUDdWITH FACEcDANESE AVAGRAHAjCONSONANT SIG",
   "N PAMINGKALzaNYAKRAzcIKUzaSANGAN MAzhWAjDIGIT EIGHTpFIVEqOURpNINEpONEpSEVENqIXpTHREEqWOpZEROj",
   "LETTER ArEqBArHAqCAqDAqErUqFArINAL KwMqGAqHAqIqJAqKArHAqLArEUqMAqNArGArYAqOqPAqQAqRArEUqSArYA",
   "qTAqUqVAqWAqXAqYAqZAjPUNCTUATION BINDU BA SATANGAzbCAKRAzbDA SATANGAzbKA SATANGAzbLEU SATANGA",
   "zbPANGLONGzcURNAMAzbSURYAjSIGN PAMAAEHqNGLAYARsWISADrYECEKoVIRAMAjVOWEL SIGN PAMEPETwNAELAENG",
   "xEULEUNGxGHULUxOLONGxYUKUcFLOWERcRISEg OVER MOUNTAINScSET OVER BUILDINGSbPERHEROeSCRIPT EIGHT",
   "mQUALS SIGNlFIVEmOURlLATIN SMALL LETTER IzeNmEFT PARENTHESISlMINUSlNINElONElPLUS SIGNlRIGHT P",
   "ARENTHESISlSEVENmIXlTHREEmWOlZEROfET ABOVE LEFTWARDS ARROWoSUBSETqPERSETiBESIDE AND JOINED BY",
   " DASH WITH SUBSETpSUBSETiOFk ABOVE ALMOST EQUAL TOrEQUALS SIGNrNOT EQUAL TOrTILDE OPERATORlOR",
   " EQUAL TOw WITH DOT ABOVElWITH NOT EQUAL TOiPRECEDING SOLIDUSiWITH DOTnMULTIPLICATION SIGN BE",
   "LOWnPLUS SIGN BELOWeVILLAINbRFACE INTEGRALdERbSHIcPENSION RAILWAYaWANcSH AMPERSAND ORNAMENTbI",
   "MMERbUNG DASHaYLOTI NAGRI LETTER AtBHOuOtCHOuOtDDHOvOuHOuOtEtGHOuOtHOtItJHOuOtKHOuOtLOtMOtNOt",
   "OtPHOuOtROuROtSOtTHOuOuTHOvOtUmPOETRY MARK-1y2y3y4mSIGN ALTERNATE HASANTAsNUSVARArDVISVARArHA",
   "SANTAmVOWEL SIGN AxExIxOOxUbMBOL FOR ACKNOWLEDGEkBACKSPACElELLkCANCELmRRIAGE RETURNkDATA LINK",
   " ESCAPElELETEq FORM TWOmVICE CONTROL FOURzONEzTHREEzaWOkEND OF MEDIUMrTEXTsRANSMISSIONzd BLOC",
   "KmQUIRYlSCAPEkFILE SEPARATORlORM FEEDkGROUP SEPARATORkHORIZONTAL TABULATIONkLINE FEEDkMARKS C",
   "HAPTERkNEGATIVE ACKNOWLEDGEmWLINElULLkRECORD SEPARATORkSAMARITAN SOURCElHIFT INqOUTlPACElTART",
   " OF HEADINGtTEXTlUBSTITUTEu FORM TWOlYNCHRONOUS IDLEkTYPE A ELECTRONICSkUNIT SEPARATORkVERTIC",
   "AL TABULATIONcMETRYbNcAGOGUEcCHRONOUS IDLEbRIAC ABBREVIATION MARKgBARREKHgCOLON SKEWED LEFTtR",
   "IGHTiNTRACTIONgDOTTED ZLAMA ANGULARtHORIZONTALgEND OF PARAGRAPHhSASA ABOVEmBELOWgFEMININE DOT",
   "gHARKLEAN ASTERISCUSpMETOBELUSpOBELUShBASA ABOVEmBELOWl-ESASA DOTTEDhORIZONTAL COLONgLETTER A",
   "LAPHnBETHnDALATHoOTLESS DALATH RISHnEnFINAL SEMKATHnGAMALs GARSHUNInHEpTHnKAPHnLAMADHnMALAYAL",
   "AM BHAxJAxLLAzLAxNGAyNAzNAyYAxRAxSSAxTTAoIMnNUNnPEpRSIAN BHETHvDHALATHvGHAMALnQAPHnREVERSED P",
   "EoISHnSADHEoEMKATHoHINoOGDIAN FEvKHAPHvZHAINoUPERSCRIPT ALAPHnTAWoETHr GARSHUNInWAWnYUDHr HEn",
   "ZAINgMUSICgOBLIQUE LINE ABOVEtBELOWgPTHAHA ABOVEnBELOWnDOTTEDgQUSHSHAYAgRBASA ABOVEmBELOWhUKK",
   "AKHAhWAHAgSUBLINEAR COLONv SKEWED LEFTzdRIGHTqFULL STOPiPRALINEAR COLONx SKEWED LEFTsFULL STO",
   "PgTHREE DOTS ABOVErBELOWhWO VERTICAL DOTS ABOVEyBELOWgZQAPHA ABOVEnBELOWnDOTTEDdNGE"]

end Gloss.Text.CharName
