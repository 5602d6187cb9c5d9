/-! The names of characters that begin with the letter M, as pages. -/

namespace Gloss.Text.CharName

/-- The page of the letter M. -/
def pageM : List String :=
  ["MACRONbGEcIC WANDcNETbHAJANI ABBREVIATION SIGNiLETTER ApBAqHApCAqHApDAqDArHAqHApEpGAqHApHApIp",
   "JAqHApKAqHApLApMApNAqNAqYApOpPAqHApRAqRApSApTAqHAqTArHApUpVAjIGATURE SHRIiSECTION MARKjIGN NU",
   "KTAcJONG TILE AUTUMNmBACKoMBOOmCHRYSANTHEMUMmEAST WINDnIGHT OF BAMBOOSvCHARACTERSwIRCLESmFIVE",
   " OF BAMBOOSuCHARACTERSvIRCLESnOUR OF BAMBOOSuCHARACTERSvIRCLESmGREEN DRAGONmJOKERmNINE OF BAM",
   "BOOSuCHARACTERSvIRCLESnORTH WINDmONE OF BAMBOOStCHARACTERSuIRCLESnRCHIDmPLUMmRED DRAGONmSEVEN",
   " OF BAMBOOSvCHARACTERSwIRCLESnIX OF BAMBOOStCHARACTERSuIRCLESnOUTH WINDnPRINGnUMMERmTHREE OF ",
   "BAMBOOSvCHARACTERSwIRCLESnWO OF BAMBOOStCHARACTERSuIRCLESmWEST WINDnHITE DRAGONnINTERbKASAR A",
   "NGKAhEND OF SECTIONhLETTER AoBAoCAoDAoGAoJAoKAoLAoMAoNApGApYAoPAoRAoSAoTAoVAoYAhPASSIMBANGhVO",
   "WEL SIGN EsIsOsUbLAYALAM AU LENGTH MARKjDATE MARKkIGIT EIGHTpFIVEqOURpNINEpONEpSEVENqIXpTHREE",
   "qWOpZEROjFRACTION ONE EIGHTHwFIFTHxORTIETHwHALFwONE-HUNDRED-AND-SIXTIETHwQUARTERwSIXTEENTHwTE",
   "NTHxWENTIETHsTHREE EIGHTIETHSyQUARTERSySIXTEENTHSyTWENTIETHSjLETTER ArArIrRCHAIC IIrUqBArHAqC",
   "ArHAsILLU KxLyLzLxMxNyNxRRxYqDArDAsHArHArOT REPHqErEqGArHAqHAqIrIqJArHAqKArHAqLArLAsLAqMAqNAr",
   "GArNAsNArYAqOrOqPArHAqRArRAqSArHArSAqTArHArTAsHAsTAqUrUqVArEDIC ANUSVARArOCALIC LzLyRzRqYAjNU",
   "MBER ONE HUNDREDuTHOUSANDqTENjSIGN ANUSVARApVAGRAHAoCANDRABINDUpIRCULAR VIRAMApOMBINING ANUSV",
   "ARA ABOVEoPARAoVERTICAL BAR VIRAMApIRAMAqSARGAjVOWEL SIGN AAvIvUuEvEuIvIuOvOuUvUuVOCALIC LzdL",
   "zcRzdRcE AND FEMALE SIGNeSIGNeWITH STROKE AND MALE AND FEMALE SIGNqSIGNcTESE CROSSbMMOTHbNc A",
   "ND WOMAN HOLDING HANDSdDANCINGdIN BUSINESS SUIT LEVITATINGgTUXEDOdWITH GUA PI MAOiTURBANcAT S",
   "IGNcDAIC AFFRICATION MARKhGEMINATION MARKhLETTER ABpDpGpHpINpKqSApLpMpNpPpQpRpSqHqZpTqTpZoDUS",
   "HENNAoHALQAoINpToKADoUSHENNAhPUNCTUATIONhVOCALIZATION MARKcGOcICHAEAN ABBREVIATION MARK ABOVE",
   "zcBELOWkLETTER AAYINsLEPHsYINrBETHsHETHrDALETHsHAMEDHrFErGHIMELsIMELrHEtTHrJAYINsHAYINrKAPHsH",
   "APHrLAMEDHrMEMrNUNrPErQHOPHsOPHrRESHrSADHEtMEKHsHINsSHINrTAWsETHsHAMEDHrWAWrXAPHsOPHrYODHrZAY",
   "INsHAYINkNUMBER FIVErONEu HUNDREDrTENsWENTYkPUNCTUATION DOTz WITHIN DOTyUBLE DOT WITHIN DOTwF",
   "LEURONwLINE FILLERwSTARwTWO DOTSkSIGN UDcS SHOEcTELPIECE CLOCKcUAL WHEELCHAIRbP SYMBOL FOR LI",
   "GHTHOUSEcLE LEAFbRCHEN HEAD MARKhLETTER -AoAoBAoCApHAoDApZAoGAoHAoJAoKApHAoLAoMAoNApGApYAoPAp",
   "HAoRAoSApHAoTApHApSAqHAoWAoYAoZApHAhMARK SHADhSIGN ANUSVARAmCANDRABINDUiUBJOINED LETTER AyBAy",
   "CAzHAyDAzZAyGAyHAyJAyKAzHAyLAyMAyNAzGAzYAyPAzHAyRAySAzHAyTAzHAzSAzaHAyWAyYAyZAzHAhVOWEL SIGN ",
   "AAsEsIsOsUcRIAGE SYMBOLcTIAL ARTS UNIFORMbSARAM GONDI DIGIT EIGHTtFIVEuOURtNINEtONEtSEVENuIXt",
   "THREEuWOtZEROnLETTER AvAvIvUuBAvHAuCAvHAuDAvDAwHAvHAuEuGAvHAuHAuIvIuJAvHAvNYAuKAvHAvSSAuLAvLA",
   "uMAuNAvGAvNAvYAuOuPAvHAuRAuSAvHAvSAuTAvHAvRAvTAwHAuUvUuVAuYAnRA-KARAoEPHAnSIGN ANUSVARAsCANDR",
   "AsHALANTAsNUKTAsVISARGAnVIRAMAoOWEL SIGN AAzIzUyEyIzIyOyUzUyVOCALIC RcCULINE ORDINAL INDICATO",
   "RcK WORK SYMBOLcU MARKbTE DRINKcHEMATICAL BOLD CAPITAL AzaLPHAzBzaETAzCzaHIzDzaELTAzaIGAMMAzE",
   "zaPSILONzaTAzFzGzaAMMAzHzIzaOTAzJzKzaAPPAzLzaAMDAzMzaUzNzaUzOzaMEGAzbICRONzPzaHIzaIzaSIzQzRza",
   "HOzSzaIGMAzTzaAUzaHETAze SYMBOLzUzaPSILONzVzWzXzaIzYzZzaETArDIGIT EIGHTxFIVEyOURxNINExONExSEV",
   "ENyIXxTHREEyWOxZEROrEPSILON SYMBOLrFRAKTUR CAPITAL AzhBzhCzhDzhEzhFzhGzhHzhIzhJzhKzhLzhMzhNzh",
   "OzhPzhQzhRzhSzhTzhUzhVzhWzhXzhYzhZzSMALL AzfBzfCzfDzfEzfFzfGzfHzfIzfJzfKzfLzfMzfNzfOzfPzfQzfR",
   "zfSzfTzfUzfVzfWzfXzfYzfZrITALIC CAPITAL AzhLPHAzgBzhETAzgCzhHIzgDzhELTAzgEzhPSILONzhTAzgFzgGz",
   "hAMMAzgHzgIzhOTAzgJzgKzhAPPAzgLzhAMDAzgMzhUzgNzhUzgOzhMEGAziICRONzgPzhHIzhIzhSIzgQzgRzhHOzgSz",
   "hIGMAzgTzhAUzhHETAzl SYMBOLzgUzhPSILONzgVzgWzgXzhIzgYzgZzhETAyEPSILON SYMBOLyKAPPA SYMBOLyNAB",
   "LAyPARTIAL DIFFERENTIALzHI SYMBOLzI SYMBOLyRHO SYMBOLySMALL AzfLPHAzeBzfETAzeCzfHIzeDzfELTAze",
   "EzfPSILONzfTAzeFzfINAL SIGMAzeGzfAMMAzeHzeIzfOTAzeJzeKzfAPPAzeLzfAMDAzeMzfUzeNzfUzeOzfMEGAzgI",
   "CRONzePzfHIzfIzfSIzeQzeRzfHOzeSzfIGMAzeTzfAUzfHETAzeUzfPSILONzeVzeWzeXzfIzeYzeZzfETAyTHETA SY",
   "MBOLrKAPPA SYMBOLrNABLArPARTIAL DIFFERENTIALsHI SYMBOLsI SYMBOLrRHO SYMBOLrSCRIPT CAPITAL Azg",
   "BzgCzgDzgEzgFzgGzgHzgIzgJzgKzgLzgMzgNzgOzgPzgQzgRzgSzgTzgUzgVzgWzgXzgYzgZySMALL AzeBzeCzeDzeE",
   "zeFzeGzeHzeIzeJzeKzeLzeMzeNzeOzePzeQzeRzeSzeTzeUzeVzeWzeXzeYzeZsMALL AyLPHAxByETAxCyHIxDyELTA",
   "yIGAMMAxEyPSILONyTAxFyINAL SIGMAxGyAMMAxHxIyOTAxJxKyAPPAxLyAMDAxMyUxNyUxOyMEGAzICRONxPyHIyIyS",
   "IxQxRyHOxSyIGMAxTyAUyHETAxUyPSILONxVxWxXyIxYxZyETArTHETA SYMBOLmDOUBLE-STRUCK CAPITAL AziBziD",
   "ziEziFziGziIziJziKziLziMziOziSziTziUziVziWziXziYzaDIGIT EIGHTzgFIVEzhOURzgNINEzgONEzgSEVENzhI",
   "XzgTHREEzhWOzgZEROzaSMALL AzgBzgCzgDzgEzgFzgGzgHzgIzgJzgKzgLzgMzgNzgOzgPzgQzgRzgSzgTzgUzgVzgW",
   "zgXzgYzgZmFALLING DIAGONALnRAKTUR CAPITAL AzcBzcDzcEzcFzcGzcJzcKzcLzcMzcNzcOzcPzcQzcSzcTzcUzc",
   "VzcWzcXzcYuSMALL AzaBzaCzaDzaEzaFzaGzaHzaIzaJzaKzaLzaMzaNzaOzaPzaQzaRzaSzaTzaUzaVzaWzaXzaYzaZ",
   "mITALIC CAPITAL AzcLPHAzbBzcETAzbCzcHIzbDzcELTAzbEzcPSILONzcTAzbFzbGzcAMMAzbHzbIzcOTAzbJzbKzc",
   "APPAzbLzcAMDAzbMzcUzbNzcUzbOzcMEGAzdICRONzbPzcHIzcIzcSIzbQzbRzcHOzbSzcIGMAzbTzcAUzcHETAzg SYM",
   "BOLzbUzcPSILONzbVzbWzbXzcIzbYzbZzcETAtEPSILON SYMBOLtKAPPA SYMBOLtNABLAtPARTIAL DIFFERENTIALu",
   "HI SYMBOLuI SYMBOLtRHO SYMBOLtSMALL AzaLPHAzBzaETAzCzaHIzDzaELTAzaOTLESS IzhJzEzaPSILONzaTAzF",
   "zaINAL SIGMAzGzaAMMAzIzaOTAzJzKzaAPPAzLzaAMDAzMzaUzNzaUzOzaMEGAzbICRONzPzaHIzaIzaSIzQzRzaHOzS",
   "zaIGMAzTzaAUzaHETAzUzaPSILONzVzWzXzaIzYzZzaETAtTHETA SYMBOLmLEFT ANGLE BRACKETrDOUBLE ANGLE B",
   "RACKETrFLATTENED PARENTHESISrWHITE SQUARE BRACKETxTORTOISE SHELL BRACKETmMONOSPACE CAPITAL Az",
   "eBzeCzeDzeEzeFzeGzeHzeIzeJzeKzeLzeMzeNzeOzePzeQzeRzeSzeTzeUzeVzeWzeXzeYzeZwDIGIT EIGHTzcFIVEz",
   "dOURzcNINEzcONEzcSEVENzdIXzcTHREEzdWOzcZEROwSMALL AzcBzcCzcDzcEzcFzcGzcHzcIzcJzcKzcLzcMzcNzcO",
   "zcPzcQzcRzcSzcTzcUzcVzcWzcXzcYzcZmRIGHT ANGLE BRACKETsDOUBLE ANGLE BRACKETsFLATTENED PARENTHE",
   "SISsWHITE SQUARE BRACKETyTORTOISE SHELL BRACKEToSING DIAGONALmSANS-SERIF BOLD CAPITAL AzlLPHA",
   "zkBzlETAzkCzlHIzkDzlELTAzkEzlPSILONzlTAzkFzkGzlAMMAzkHzkIzlOTAzkJzkKzlAPPAzkLzlAMDAzkMzlUzkNz",
   "lUzkOzlMEGAzmICRONzkPzlHIzlIzlSIzkQzkRzlHOzkSzlIGMAzkTzlAUzlHETAzp SYMBOLzkUzlPSILONzkVzkWzkX",
   "zlIzkYzkZzlETAzcDIGIT EIGHTziFIVEzjOURziNINEziONEziSEVENzjIXziTHREEzjWOziZEROzcEPSILON SYMBOL",
   "zcITALIC CAPITAL AzsLPHAzrBzsETAzrCzsHIzrDzsELTAzrEzsPSILONzsTAzrFzrGzsAMMAzrHzrIzsOTAzrJzrKz",
   "sAPPAzrLzsAMDAzrMzsUzrNzsUzrOzsMEGAztICRONzrPzsHIzsIzsSIzrQzrRzsHOzrSzsIGMAzrTzsAUzsHETAzw SY",
   "MBOLzrUzsPSILONzrVzrWzrXzsIzrYzrZzsETAzjEPSILON SYMBOLzjKAPPA SYMBOLzjNABLAzjPARTIAL DIFFEREN",
   "TIALzkHI SYMBOLzkI SYMBOLzjRHO SYMBOLzjSMALL AzqLPHAzpBzqETAzpCzqHIzpDzqELTAzpEzqPSILONzqTAzp",
   "FzqINAL SIGMAzpGzqAMMAzpHzpIzqOTAzpJzpKzqAPPAzpLzqAMDAzpMzqUzpNzqUzpOzqMEGAzrICRONzpPzqHIzqIz",
   "qSIzpQzpRzqHOzpSzqIGMAzpTzqAUzqHETAzpUzqPSILONzpVzpWzpXzqIzpYzpZzqETAzjTHETA SYMBOLzcKAPPA SY",
   "MBOLzcNABLAzcPARTIAL DIFFERENTIALzdHI SYMBOLzdI SYMBOLzcRHO SYMBOLzcSMALL AzjLPHAziBzjETAziCz",
   "jHIziDzjELTAziEzjPSILONzjTAziFzjINAL SIGMAziGzjAMMAziHziIzjOTAziJziKzjAPPAziLzjAMDAziMzjUziNz",
   "jUziOzjMEGAzkICRONziPzjHIzjIzjSIziQziRzjHOziSzjIGMAziTzjAUzjHETAziUzjPSILONziVziWziXzjIziYziZ",
   "zjETAzcTHETA SYMBOLxCAPITAL AzfBzfCzfDzfEzfFzfGzfHzfIzfJzfKzfLzfMzfNzfOzfPzfQzfRzfSzfTzfUzfVz",
   "fWzfXzfYzfZxDIGIT EIGHTzdFIVEzeOURzdNINEzdONEzdSEVENzeIXzdTHREEzeWOzdZEROxITALIC CAPITAL AzmB",
   "zmCzmDzmEzmFzmGzmHzmIzmJzmKzmLzmMzmNzmOzmPzmQzmRzmSzmTzmUzmVzmWzmXzmYzmZzeSMALL AzkBzkCzkDzkE",
   "zkFzkGzkHzkIzkJzkKzkLzkMzkNzkOzkPzkQzkRzkSzkTzkUzkVzkWzkXzkYzkZxSMALL AzdBzdCzdDzdEzdFzdGzdHz",
   "dIzdJzdKzdLzdMzdNzdOzdPzdQzdRzdSzdTzdUzdVzdWzdXzdYzdZnCRIPT CAPITAL AzbCzbDzbGzbJzbKzbNzbOzbP",
   "zbQzbSzbTzbUzbVzbWzbXzbYzbZtSMALL AzBzCzDzFzHzIzJzKzLzMzNzPzQzRzSzTzUzVzWzXzYzZbXIMIZEbYAN NU",
   "MERAL EIGHTsEENoLEVENnFIFTEENpVEoOURrTEENnNINErTEENnONEnSEVENsTEENoIXqTEENnTENoHIRTEENpREEoWE",
   "LVEpOnZEROaEASURED ANGLEn OPENING LEFToWITH OPEN ARM ENDING IN ARROW POINTING DOWN AND LEFTzz",
   "kRIGHTzzbLEFT AND DOWNzzkUPzzbRIGHT AND DOWNzzlUPzzbUP AND LEFTzziRIGHTiBYiRIGHT ANGLE WITH D",
   "OTcT ON BONEbCHANICAL ARMkLEGbDEFAIDRIN CAPITAL LETTER AzbIzbTIUzaBzaCzaDzaEzaFzaGzaHzbPzaIza",
   "JzaKzbPzaLzaMzaNzbGzbYzaOzbEzaPzaQzaRzaSzaTzaUzaVzaWzaXzaYzbUzaZmOMMAlDIGIT EIGHTrFIVEsOURrNI",
   "NErONEu ALTERNATE FORMrSEVENsIXrTHREEw ALTERNATE FORMsWOu ALTERNATE FORMrZEROlEXCLAMATION OHl",
   "FULL STOPlNUMBER EIGHTEENtLEVENsFIFTEENtOURTEENsNINETEENsSEVENTEENtIXTEENsTENtHIRTEENtWELVElS",
   "MALL LETTER AzIzTIUyByCyDyEyFyGyHzPyIyJyKzPyLyMyNzGzYyOzEyPyQyRySyTyUyVyWyXyYzUyZmYMBOL AIVAc",
   "IEVAL COMMAiEXCLAMATION MARKiQUESTION MARKdUM BLACK CIRCLEhOLD WHITE CIRCLEgEIGHT POINTED BLA",
   "CK STARmSPOKED ASTERISKgFIVE SPOKED ASTERISKhLATTENED LEFT PARENTHESIS ORNAMENTqRIGHT PARENTH",
   "ESIS ORNAMENThOUR POINTED BLACK STARtPINWHEEL STARgGREEK CROSSgLEFT CURLY BRACKET ORNAMENTlPA",
   "RENTHESIS ORNAMENTk-POINTING ANGLE BRACKET ORNAMENTgMATHEMATICAL SPACEgRIGHT CURLY BRACKET OR",
   "NAMENTmPARENTHESIS ORNAMENTl-POINTING ANGLE BRACKET ORNAMENTgSALTIREhHADEhIX POINTED BLACK ST",
   "ARkSPOKED ASTERISKhMALL WHITE CIRCLEgTHREE POINTED BLACK STARuPINWHEEL STARgVERTICAL BARgWHIT",
   "E CIRCLEmSQUAREbETEI MAYEK AHANG KHUDAMnNJInPUN IYEKmCHEIKHANsEImDIGIT EIGHTsFIVEtOURsNINEsON",
   "EsSEVENtIXsTHREEtWOsZEROmLETTER ATIYAtBAuHAMtCHAvILtDDAvHAuHOUuILtEtGHOUuOKtHUKtIu LONSUMtJHA",
   "MuILtKHOUuOKw LONSUMtLAIw LONSUMtMITw LONSUMtNAv LONSUMuGOUx LONSUMuNAuYAtOtPAv LONSUMuHAMtRA",
   "ItSAMuHAuSAtTHOUuILw LONSUMuTAvHAtUNtWAItYANGnUM IYEKmSYLLABLE REPETITION MARKmVIRAMAnOWEL SI",
   "GN AAIzUyNAPyUxCHEINAPxIIyNAPxNUNGxONAPxSOUNAPxUNAPyUxVISARGAxYENAPmWORD REPETITION MARKbLONc",
   "TING FACEbMObNDE KIKAKUI COMBINING NUMBER HUNDRED THOUSANDSzlSzeMILLIONSzeTEENSzgN THOUSANDSz",
   "hSzfHOUSANDSnDIGIT EIGHTtFIVEuOURtNINEtONEtSEVENuIXtTHREEuWOnSYLLABLE M001 KIz2 KAz3 KUz4 WIz",
   "5 WAz6 WUz7 MINz8 MANz9 MUNy10 BIz1 BAz2 BUz3 Iz4 Az5 Uz6 DIz7 DAz8 DUz9 SIy20 SAz1 SUz2 TIz3",
   " TAz4 TUz5 LIz6 LAz7 LUz8 JIz9 JAy30 JUz1 YIz2 YAz3 YUz4 FIz5 FAz6 FUz7 NINz8 NANz9 NUNy40 HE",
   "Ez1 HAz2 HOOz3 NGGAz4 KPEEz5 WOz6 HUANz7 MBEEz8 KOz9 WVAy50 PUz1 PEz2 HENz3 HINz4 LOOz5 TEz6 ",
   "GBAz7 NGONz8 NYANz9 MENy60 NYONz1 WVIz2 MBAz3 JOz4 NDOz5 KEEz6 POz7 NDOOz8 PIz9 TOy70 GBOz1 G",
   "BOOz2 MBEz3 LEz4 KPUz5 FEz6 KOOz7 VOz8 FEEz9 SOy80 YEz1 PEEz2 NGGUz3 HEEIz4 LEEz5 VEz6 LONG N",
   "GGEz7 HUNz8 FOz9 DEEy90 NGGIz1 TEEz2 KPAz3 GBEEz4 MONz5 KEz6 HEz7 BEz8 NYENz9 PAx100 Ez1 FANz",
   "2 POOz3 BOOz4 TOOz5 LONG MBOOz6 LONG NGGOOz7 GBEz8 KPEz9 YEEy10 LONG LEz1 GAz2 KPOOz3 JEz4 WO",
   "Oz5 NGGEEz6 SEz7 NENz8 WEz9 NDEy20 NGGOz1 YOz2 MBUz3 NDIz4 GBIz5 NDUz6 WEEz7 NGGUAz8 HOOUz9 N",
   "DAy30 HANz1 INz2 KPIz3 FOOz4 NJOOz5 INz6 SOOz7 EIz8 BOz9 WVEy40 HOz1 YOOz2 LONG MBOz3 WEIz4 V",
   "OOz5 MBIz6 NGGEz7 Oz8 GBUz9 NJEEy50 BEEz1 VUz2 NJAz3 LOz4 MUANz5 GIz6 NGGOOz7 JEEz8 KPOz9 NGG",
   "AAy60 JOOz1 LONG MBEz2 SEEz3 EEz4 NYINz5 OOz6 GUEIz7 GUANz8 GUz9 NONy70 NYUNz1 RAz2 MBOOz3 VE",
   "Ez4 MBOz5 LONG JOz6 HIz7 NGUANz8 ENz9 KUAy80 DOOz1 DOz2 VIz3 LONG NGGOz4 NGENz5 VAz6 HUz7 MBU",
   "Uz8 MBEEz9 MUENy90 GEEz1 NDEEz2 NJUz3 HONz4 WUIz5 ANz6 SIAz7 FUAcORAH WITH NINE BRANCHEScS SY",
   "MBOLbRCURYcOITIC CURSIVE FRACTION EIGHT TWELFTHSzaLEVEN TWELFTHSzFIVE TWELFTHSzaOUR TWELFTHSz",
   "NINE TWELFTHSzONE HALFzdTWELFTHzSEVEN TWELFTHSzaIX TWELFTHSzTEN TWELFTHSzaHREE TWELFTHSzaWO T",
   "WELFTHSqLETTER AyRCHAIC SAxBAxDAxExHHAxIxKAyHAxLAxMAxNAyExOxPAxQAxRAxSAyExTAyEyOxWAxYArOGOGRA",
   "M IMNzRMTqNUMBER EIGHTzc HUNDREDzk THOUSANDzdTHOUSANDzcY THOUSANDxFIFTYzc THOUSANDzVEzb HUNDR",
   "EDzj THOUSANDzcTHOUSANDyORTYzc THOUSANDzURzb HUNDREDzj THOUSANDzcTHOUSANDxNINEzb HUNDREDzj TH",
   "OUSANDzcTHOUSANDzbTY THOUSANDxONEza HUNDREDzi THOUSANDzbTHOUSANDxSEVENzc HUNDREDzk THOUSANDzd",
   "THOUSANDzcTYze THOUSANDyIXza HUNDREDzi THOUSANDzbTHOUSANDzaTYzc THOUSANDxTENza THOUSANDyHIRTY",
   "zd THOUSANDzREEzc HUNDREDzk THOUSANDzdTHOUSANDyWENTYzd THOUSANDzOza HUNDREDzi THOUSANDzbTHOUS",
   "ANDiHIEROGLYPHIC LETTER AzcBAze-2zcDAzcEzcHHAzcIzcKAzdHAzcLAzcMAzcNAze-2zdEze-2zcOzcPAzcQAzcR",
   "Aze-2zcSAze-2zdEzcTAze-2zdEze-2zdOzcWAzcYAvSYMBOL VIDJzg-2cPERSONbSSAGE WAITINGbTRICAL BREVEi",
   "LONG OVER SHORTsTWO SHORTSiPENTASEMEiSHORT OVER LONGiTETRASEMEjRISEMEjWO SHORTS JOINEDtOVER L",
   "ONGdOaIAO LETTER AHmRCHAIC MAtNAuGAtZZAlBAmRIlDAmDAmLHAoYAmZAnHAnYInZAlFAlGAmHAnHAlHAmHAlKAlL",
   "AmHAnYAmYAlMAmHAlNAnSALIZATIONmGAnHAmHAmNAnHAmYAnHAlPAmLAlQAmGAlREFORMED TONE-1z2z4z5z6z8vSHA",
   "mTElSAmHAmSAmYIlTAmEmLHAoYAmONE-2q3q4q5q6q7q8mSAnEnHAnSAmTAlVAmFAlWAlXAlYI DZHAoKAoNNAoPAoTAp",
   "SAqHApTAlZAmHAmSAnHAmZAnSAoYAnYAeSIGN ASPIRATIONjCONSONANT MODIFIER BARjREFORMED ASPIRATIONsV",
   "OICINGeTONE ABOVEjBELOWjRIGHTjTOP RIGHTeVOWEL SIGN AqAqErEqHHqIqNrGqUpEqAqIqNrGqRrRpIqArNsGqE",
   "qGqIqNGqOrNGqUpNqGpOqERrYqGqOqUpROUNDED ERzRpUqArNsGqEIqIqNGqOGqUpVWpWqOpYqIqUIbCR DASH SYMBO",
   "LeON US SYMBOLdO SIGNeBEePHONEeSCOPEbDDLE DOTgTHIRD WHITE RIGHT POINTING INDEXcLINE HORIZONTA",
   "L ELLIPSISbLITARY HELMETiMEDALcKY WAYcL SIGNbNIBUSdDISCdMIZEcUS SIGNj IN TRIANGLEkWITH COMMA ",
   "ABOVEpDOT BELOWpFALLING DOTSpRISING DOTSfTILDEe-OR-PLUS SIGNcYbRRORf BALLaMSPaOBILE PHONEl OF",
   "FmWITH RIGHTWARDS ARROW AT LEFTbDELSdRN PENTATHLONcI ABBREVIATION SIGNeDANDAfIGIT EIGHTkFIVEl",
   "OURkNINEkONEkSEVENlIXkTHREElWOkZEROfOUBLE DANDAeLETTER AmAmImUlBAmHAlCAmHAlDAmDAnHAmHAlElGAmH",
   "AlHAlImIlJAmHAlKAmHAlLAmLAlMAlNAmGAmNAmYAlOlPAmHAlRAlSAmHAmSAlTAmHAmTAnHAlUmUlVAmOCALIC LuLtR",
   "uRlYAeSIGN ANUSVARAkRDHACANDRAjHUVAjVIRAMAlSARGAeVOWEL SIGN AAqIqUpEpIqIpOpUqUpVOCALIC LyLxRy",
   "RdFIER BREVE WITH INVERTED BREVEiLETTER ACUTE ACCENTqLVEOLAR CLICKqPOSTROPHEpBEGIN HIGH TONEv",
   "LOW TONEqILABIAL CLICKpCAPITAL AyExByARRED BxCxDxExFxGxHy WITH STROKExIxJxKxLxMxNxOyUxPxQxRyE",
   "VERSED EzgNxTxUxVxWqENTRED LEFT HALF RINGxRIGHT HALF RINGqHINESE TONE YANG PINGzhQUzhRUzhSHAN",
   "GzdIN PINGzgQUzgRUzgSHANGqIRCUMFLEX ACCENTqOLONqROSS ACCENTqYRILLIC ENyHARD SIGNySOFT SIGNpDE",
   "NTAL CLICKqOT HORIZONTAL BARtSLASHtVERTICAL BARrUBLE APOSTROPHEwPRIMErWN ARROWHEADuTACKpEND H",
   "IGH TONEtLOW TONEqXTRA-HIGH DOTTED LEFT-STEM TONE BARzhTONE BARzaLEFT-STEM TONE BARzaTONE BAR",
   "vLOW DOTTED LEFT-STEM TONE BARzgTONE BARzLEFT-STEM TONE BARzTONE BARpGEORGIAN NARqLOTTAL STOP",
   "zb WITH STROKEqRAVE ACCENTpHALF TRIANGULAR COLONqIGH DOTTED LEFT-STEM TONE BARzbTONE BARuLEFT",
   "-STEM TONE BARuTONE BARpLATERAL CLICKqEFT ARROWHEADuHALF RINGuTACKqOW ACUTE ACCENTtCIRCUMFLEX",
   " ACCENTtDOTTED LEFT-STEM TONE BARzaTONE BARvWN ARROWHEADtGRAVE ACCENTtINVERTED EXCLAMATION MA",
   "RKtLEFT ARROWzdHEADx-STEM TONE BARtMACRONtRIGHT ARROWHEADvNGtTILDEuONE BARtUP ARROWHEADtVERTI",
   "CAL LINEsER RIGHT CORNER ANGLEpMACRONqID DOTTED LEFT-STEM TONE BARzaTONE BARtLEFT-STEM TONE B",
   "ARtTONE BARsDLE DOUBLE ACUTE ACCENTzdGRAVE ACCENTwGRAVE ACCENTrNUS SIGNpOPEN SHELFpPLUS SIGNq",
   "RIMEpRAISED COLONwDOWN ARROWwEXCLAMATION MARKwINVERTED EXCLAMATION MARKwUP ARROWqETROFLEX CLI",
   "CK WITH RETROFLEX HOOKrVERSED COMMAyGLOTTAL STOPzk WITH STROKEqHOTIC HOOKqIGHT ARROWHEADvHALF",
   " RINGvTACKpSHELFrORT EQUALS SIGNqMALL AwEwINwLPHAvBw WITH HOOKwARRED OwETAwOTTOM HALF OvCw WI",
   "TH CURLwAPITAL AAzdBzdGze WITH HOOKzdHzdIze WITH STROKEzeNVERTED RzdLze WITH BELTzdNzdOEzdRzd",
   "UzdYwHIwLOSED OMEGAzcREVERSED OPEN EvDw WITH HOOKzg AND TAILzcTAILwELTAxZH DIGRAPHwOTLESS J W",
   "ITH STROKEzq AND HOOKwZ DIGRAPHzf WITH CURLzlRETROFLEX HOOKvEwNGwSHwTHwZHvFwENG DIGRAPHvGw WI",
   "TH HOOKwAMMAwREEK GAMMAzbPHIvHw WITH HOOKzcSTROKEwENGz WITH HOOKvI WITH STROKEwOTAvJw WITH CR",
   "OSSED-TAILvKvLw WITH BELTzcINVERTED LAZY SzcMIDDLE TILDEzcPALATAL HOOKzcRETROFLEX HOOKzq AND ",
   "BELTwEZHz WITH RETROFLEX HOOKwIGATURE OEwS DIGRAPHwZ DIGRAPHvMw WITH HOOKvN WITH LEFT HOOKzcR",
   "ETROFLEX HOOKvOw WITH STROKEwPEN EzaOvPwHIvQvRw WITH FISHHOOKzcTAILwAMS HORNwEVERSED EzeGLOTT",
   "AL STOPzeOPEN EvSw WITH CURLzcHOOKwCHWAxRIPT GwIDEWAYS UvTw WITH PALATAL HOOKzcRETROFLEX HOOK",
   "wC DIGRAPH WITH CURLwESH DIGRAPHwHETAwOP HALF OwS DIGRAPHzf WITH RETROFLEX HOOKwURNED AzdEzdL",
   "PHAzcHzcIzcMzd WITH LONG LEGzcOPEN EzcRzd WITH HOOKzjLONG LEGzr AND RETROFLEX HOOKzcVzcWzcYzd",
   " WITH BELTvUw BARxWITH LEFT HOOKwPSILONvVw WITH HOOKzcRIGHT HOOKvWvXvYvZw WITH CURLzcRETROFLE",
   "X HOOKqTRESS AND HIGH TONEzaLOW TONEqUPERSCRIPT HALF TRIANGULAR COLONzbTRIANGULAR COLONpTRIAN",
   "GULAR COLONqURNED COMMApUNASPIRATEDqP ARROWHEADsTACKqSpVERTICAL LINEqOICINGpYANG DEPARTING TO",
   "NE MARKqIN DEPARTING TONE MARKcULO TWO SUMbNEY BAGfWITH WINGSe-MOUTH FACEcGOLIAN BIRGAo WITH ",
   "DOUBLE ORNAMENTuORNAMENTjCOLONlMMAjDIGIT EIGHTpFIVEqOURpNINEpONEpSEVENqIXpTHREEqWOpZEROkOUBLE",
   " BIRGA WITH ORNAMENTjELLIPSISjFOUR DOTSkREE VARIATION SELECTOR FOURzhONEzhTHREEziWOkULL STOPj",
   "INVERTED BIRGAx WITH DOUBLE ORNAMENTjLETTER ArLI GALI AzaHzaNUSVARA ONEzBALUDAzCAzDAzbGALGAzb",
   "MARUzaDAzHALF UzeYAzIzaNVERTED UBADAMAzKAzNGAzaNAzPAzaHAzSSAzTAzaHREE BALUDAzaTAzbHAzUBADAMAz",
   "VISARGA ONEzZAzaHArNGqBAqCHAt WITH TWO DOTSsIqDAqErEqFAqGAqHAAqIqJAqKArHAqLArHAqMAsNCHU ALI G",
   "ALI BHAzgCAzhYAzgDDHAzhHAzgGHAzgJHAzgLHAzgNGAzgSSAzgTAzhTAzgZAzhHAxFAxIxKAxRAxZHAqNAqOrEqPAqQ",
   "AqRAqSArHArIBE ANGvCHAvDAvEvFAvGAxAvHAxAvIwYvJAvKAvPAvRAAvSHAvTAwSAvUwEvZAwHAqTArODO ALI GALI",
   " TAzeZHAwNGvBAvCHAvDAwZAvEvGAxAvHAAvIvJAwIAvKAvLONG VOWEL SIGNvMAvNIAvOwEvPAvQAvTAwSAvUwEvWAv",
   "YArSAqUrEqWAqYAqZArHIrRAjMANCHU COMMAqFULL STOPjNIRUGUjROTATED BIRGAw WITH DOUBLE ORNAMENTzcO",
   "RNAMENTjSIBE SYLLABLE BOUNDARY MARKERkWIRL BIRGAu WITH DOUBLE ORNAMENTzaORNAMENTjTODO SOFT HY",
   "PHENkRIPLE BIRGA WITH ORNAMENTkURNED SWIRL BIRGA WITH DOUBLE ORNAMENTjVOWEL SEPARATORcKEYf FA",
   "CEcOGRAM FOR EARTHmYANGnINdRAILdSTABLE SYMBOLbOD BUBBLEcN CAKEeVIEWING CEREMONYbSQUEeITObTHER",
   " CHRISTMAScOR BOATfSCOOTEReIZED WHEELCHAIReWAYbUNT FUJIeAINh BICYCLISTiCABLEWAYiRAILWAYcSEe F",
   "ACEfTRAPcTHbVIE CAMERAbYAIaRO DANDAeIGIT EIGHTjFIVEkOURjNINEjONEjSEVENkIXjTHREEkWOjZEROeOUBLE",
   " DANDAdLETTER AkBAkCHUkDAmIkElAkHAImOkKEAAElHAIlOkLAmNkMAEMlIMkNGIlINkOlLlOkPAlHIkRIlOkSHIkTA",
   "lEKlHEAkWAkYOaUCH GREATER-THANeLESS-THANbLTANI LETTER AoBApHAoCApHAoDApDAqDAqHApHAoEoGApHAoHA",
   "oIoJApJAoKApHAoLAoMAoNApNApYAoPApHAoRApHApRAoSAoTApHApTAqHAoUoVAoYAhSECTION MARKdIMAPePLE MUS",
   "ICAL NOTESgICATION SIGNs IN DOUBLE CIRCLEwLEFT HALF CIRCLEwRIGHT HALF CIRCLEwTRIANGLEtWITH DO",
   "T ABOVEyUNDERBARoXeSETh MULTIPLICATIONiUNIONbSHROOMcIC FLAT SIGNfNATURAL SIGNfSHARP SIGNeAL K",
   "EYBOARDp WITH JACKShNOTEhSCOREiYMBOL ARPEGGIATO DOWNzUPoBEGIN BEAMuPHRASEuSLURuTIEpRACEsKETqE",
   "ATH MARKrVEsISu RESToC CLEFpAESURApIRCLE X NOTEHEADpLIMACUSrVISqUSTER NOTEHEAD BLACKzfWHITEpO",
   "DAqMBINING ACCENTze-STACCATOzUGMENTATION DOTyBENDyDOITzaUBLE TONGUEzaWN BOWyFLAG-1zd2zd3zd4zd",
   "5zaIPyHARMONICyLOUREyMARCATOzf-STACCATOyRIPySMEARzNAP PIZZICATOzPRECHGESANG STEMzTACCATISSIMO",
   "zfOzaEMyTENUTOzREMOLO-1zg2zg3zaIPLE TONGUEyUP BOWrMON TIMEpRESCENDOqOIXpUT TIMEoDA CAPOqL SEG",
   "NOqMPs ALLqSHED BARLINEpECRESCENDOqGREE SLASHpOUBLE BARLINEvFLATvSHARPpRUM CLEF-1y2oEIGHTH NO",
   "TEvRESTpND BEAMsOF STIMMEsPHRASEsSLURsTIEoF CLEFu OTTAVA ALTAzcBASSApERMATAv BELOWpINAL BARLI",
   "NErGERED TREMOLO-1zf2zf3qVE-LINE STAFFpLAT DOWNtUPpORTEqUR-LINE STAFFtSTRING FRETBOARDpUSA BL",
   "ACKtWHITEoG CLEFu OTTAVA ALTAzcBASSApLISSANDO DOWNyUPpRACE NOTE NO SLASHzSLASHqEGORIAN C CLEF",
   "yF CLEFoHALF NOTEtPEDAL MARKtRESTqUPTSTIMMEoINVERTED TURNoKIEVAN C CLEFvEIGHTH NOTE STEM DOWN",
   "zmUPwND OF PIECEvFINAL NOTEwLAT SIGNvHALF NOTEvQUARTER NOTE STEM DOWNznUPvRECITATIVE MARKvWHO",
   "LE NOTEpORONoLEFT REPEAT SIGNpONGAt IMPERFECTA RESTuPERFECTA RESToMAXIMApEZZOpINIMAu BLACKvRE",
   "STpOON NOTEHEAD BLACKzcWHITEpULTI RESTtPLE MEASURE RESToNATURAL DOWNwUPpEBENSTIMMEpOTEHEAD BL",
   "ACKpULL NOTEHEADoONE HUNDRED TWENTY-EIGHTH NOTEzoRESTr-LINE STAFFpRNAMENT STROKE-1zf0zf1ze2ze",
   "3ze4ze5ze6ze7ze8ze9pTTAVA ALTAvBASSAoPARENTHESIS NOTEHEADpEDAL MARKuUP MARKqS SUBPUNCTISpIANO",
   "pLUS NOTEHEADpODATUSqRRECTUSx FLEXUSoQUARTER NOTEwRESTwTONE FLATzbSHARPqINDICESIMA ALTAzbBASS",
   "AoREPEAT DOTSuED FIGURE-1ze2ze3qVERSE FINAL BARLINEpIGHT REPEAT SIGNqNFORZANDOoSCANDICUSx FLE",
   "XUSpEGNOqMIBREVIS BLACKzRESTzWHITEsMINIMA BLACKzRESTzWHITEpHARP DOWNuUPqORT BARLINEpINGLE BAR",
   "LINEqX-LINE STAFFsSTRING FRETBOARDrTEENTH NOTEyRESTsY-FOURTH NOTEzbRESTpORIpQUARE BvNOTEHEAD ",
   "BLACKzeWHITEpUBITOoTEMPUS IMPERFECTUM CUM PROLATIONE IMPERFECTAzzg DIMINUTION-1zzs2zzs3zwPERF",
   "ECTAvPERFECTUM CUM PROLATIONE IMPERFECTAzuPERFECTAzzc DIMINUTION-1pHIRTY-SECOND NOTEzcRESTqRE",
   "E-LINE STAFFpORCULUSw RESUPINUSpRqIANGLE NOTEHEAD DOWN BLACKzlWHITEzgLEFT BLACKzlWHITEzgRIGHT",
   " BLACKzmWHITEzgUP BLACKzjRIGHT BLACKzpWHITEzjWHITEw-ROUND NOTEHEAD DOWN BLACKzrWHITEpURNs SLA",
   "SHtUPpWO-LINE STAFFoVIRGApOID NOTEHEADoWHOLE NOTEuRESTpITH FINGERNAILSoX NOTEHEADoZaVSaWaYANM",
   "AR CONSONANT SIGN MEDIAL HAzdRAzdWAzdYAxON MEDIAL LAzhMAzhNAwSHAN MEDIAL WAhDIGIT EIGHTnFIVEo",
   "OURnNINEnONEnSEVENoIXnTHREEoWOnZEROhLETTER ApITON RApUoBApHAoCApHAoDApDAqHApHAoEpASTERN PWO K",
   "AREN GHWAzgNNAzgYWAoGApHApREAT SAoHAoIpIoJApHAoKApHArMTI CAwHAvDDAxHAwHAvFAvGAvHAwHAvJAwHAvLL",
   "AvNAwYAvRAvSAvTTAxHAvXAvZAoLApLAoMApON BBAuEsEsJHAsNGAoNApGApNAqYApYAoOoPApHAoRApUMAI PALAUNG",
   " FAoSApGAW KAREN SHApHArN AtBAuHAtCAuHAtDAtFAtGAuHAtHAtJHAtKAuHAtNAuNAuYAtPHAtTHAtZAqWE PALAU",
   "NG CHAzbSHApSAoTAqI LAING BAzHAyDAzDAzaHAzHAyFAyGAzHAyJAzHAyLLAyNNAzYApHApTAqHAoUpUoVOCALIC L",
   "xLwRxRoWApESTERN PWO KAREN PWAzgTHAoYAiOGOGRAM KHAMTI HMxOAYxQNhMODIFIER LETTER KHAMTI REDUPL",
   "ICATIONxSHAN REDUPLICATIONhSHAN DIGIT EIGHTsFIVEtOURsNINEsONEsSEVENtIXsTHREEtWOsZEROiIGN ANUS",
   "VARAnSATmDOT BELOWmKHAMTI TONE-1y3mLITTLE SECTIONmPAO KAREN TONEmRUMAI PALAUNG TONE-5mSECTION",
   "nHAN COUNCIL EMPHATIC TONEzTONE-2ze3rSAWrTONE-2w3w5w6mTAI LAING TONE-2zb5mVIRAMAoSARGAmWESTER",
   "N PWO KAREN TONE-1zj2zj3zj4zj5iYMBOL AFOREMENTIONEDpITON EXCLAMATIONuONEuTWOoCOMPLETEDoGENITI",
   "VEoLOCATIVEoSHAN EXCLAMATIONtONEhTAI LAING DIGIT EIGHTxFIVEyOURxNINExONExSEVENyIXxTHREEyWOxZE",
   "ROiONE MARK SGAW KAREN HATHIzcKE PHOhVOWEL SIGN AAtIuTON AzIsEt ABOVEsGEBA KAREN IsItIsKAYAH ",
   "EEyOEyUsMON IIwOsSGAW KAREN EUtHAN AAxEy ABOVExFINAL YsTALL AAsUtUsVOCALIC LzbLzaRzbRsWESTERN",
   " PWO KAREN EUzkUE"]

end Gloss.Text.CharName
