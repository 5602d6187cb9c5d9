/-! The names of characters that begin with the letter C, as pages. -/

namespace Gloss.Text.CharName

/-- The page of the letter C. -/
def pageC : List String :=
  ["CACTUSbDA UNAcUCEUSbLENDARcL ME HANDbMERAf WITH FLASHcPINGbNcADIAN SYLLABICS AtAuIuYtIuVILIK ",
   "BtNtTHAPASCAN MzdStYsBEAVER DENE LzeRtIBLE-CREE YtLACKFOOT AzcEzcIzcKAzdEzdIzdOzcNAzdEzdIzdOz",
   "cOzcSzcWzdAzdEzdIzdOsCtAuAvIuRRIER CHAzcEzdEzcIzcOzcUzaDEEzcNE GEEzdTAL SzbIzbLAzcEzdEzcIzcOz",
   "cUzbZAzcEzdEzcIzcOzcUzaEEzaGAzcAzbEzcEzbHAzcEzdEzcIzcOzcUzbIzbOzbUzbWAzcUzaHzbEEzbIzbWAzcEzdE",
   "zcIzcOzcUzaIzbNITIAL ZzaJAzbEzcEzbIzbJAzcEzdEzcIzcOzcUzbOzbUzbWAzaKHAzcEzdEzcIzcOzcUzbKzcAzcE",
   "zdEzcIzcOzcUzaLAzbEzcEzbHAzcEzdEzcIzcOzcUzbIzbOzbUzaMAzbEzcEzbIzbOzbUzaNAzbEzcEzbGzbIzbOzbUza",
   "PzbAzbEzcEzbIzbOzbUzaRAzbEzcEzbIzbOzbUzaSAzbEzcEzbHzcAzcEzdEzcIzcOzcUzbIzbOzbUzaTHAzcEzdEzcIz",
   "cOzcUzbLAzcEzdEzcHAzdEzeEzdIzdOzdUzcIzcOzcUzbSAzcEzdEzcIzcOzcUzbTAzcEzdEzcIzcOzcSAzdEzeEzdIzd",
   "OzdUzcUzaWAzbEzcEzbIzbOzbUzaYAzbEzcEzbIzbOzbUzaZzbAzbEzcEzbIzbOzbUtEtHI SIGNtIuItOuOtWAvAuEuI",
   "vIuOvOsEtASTERN WtNsFtAuAvItEtIuIuNAL ACUTEyBOTTOM HALF RINGyDOUBLE ACUTEzfSHORT VERTICAL STR",
   "OKESzaWN TACKyGRAVEyMIDDLE DOTyPLUSyRAISED DOTzIGHT HALF RINGzaNGySHORT HORIZONTAL STROKEzMAL",
   "L RINGyTOP HALF RINGtOuOtULL STOPtWAAsGLOTTAL STOPsHKtYPHENsItItNsKtAuAvIuYtEtIuItOuOtWuAvAvY",
   "uEuIvIuOvOsLtAuAvIuYtEtHuAvAuIvIuOvOtIuItOuOtWAvAuEuIvIuOvOsMtAuAvIuYtEuDIAL LzRtHtIuItOuOvSE",
   "-CREE SKtWAvAuEuIvIuOvOsNt-CREE THEzbIzcItAuAvIuSKAPI CWAAzaKWAAzaMWAAzaNWAAzaS-WzbCWAzbKWzdA",
   "zbPWAzbTWAzbWAAzaTWAAzaWAAzbOOzaYWAAuTTILIK HAzdAzcIzdIzcOzdOzbSHRAzfAzeIzfIzeOzfOuYtEtGuAvAw",
   "IvIuIvIuOvOtHtIuItNGvAwAvIwIvOwOtOuOuYtUNAVIK HzbAzcAzbEzbIzcIzbOzcOxUT HtWAvAuEuIvIuOvOsOtJI",
   "BWAY CzaKzaMzaNzbWIzdIzcOzdOzaPzaSzbHzaTtNtOtYsPtAuAvIuYtEtIuItOuOuYtWAvAuEuIvIuOvOvYsQtAuAvI",
   "uItIuItOuOsRt-CREE REzaWEtAuAvIuYtEtIuItOuOtWAvAuEEuIvIuOvOsStAuAvIuYvISI HAzaEzaIzaOzbOzJIza",
   "UzbUzMzSHAzbEzbIzbOzcOzbWEzTHzYItEtHuAvAvYuEuIvIuOvOvYuWAwAvEvIwIvOwOwYtIuItOuOuUTH-SLAVEY KA",
   "HzgEHzgIHzgOHuYtPAuEuIuOtWuAvAuEuIvIuOvOsTtAuAvIuYtEtHu-CREE THzcAzdAzcEzcIzdIzcOzdOuAvAuEuIv",
   "IuOvOuWAwAvEtIuItLHAvEvIvOwOvWEtOuOtTAuEuHvAwAvEvIvOwOvWEuIuOtWAvAuEuIvIuOvOtYAuEuIuOsWAuAuYt",
   "EuST-CREE CWAzfAzeEzeIzfIzeOzfOzcFWAAzcKWAzfAzeEzeIzfIzeOzfOzcLzdAzeAzdEzdOzeOzdWAzfAzeEzeIzf",
   "IzeOzfOzcMzdWAzfAzeEzeIzfIzeOzfOzcNWAzfAzeEzcPzdWAzfAzeEzeIzfIzeOzfOzcRzdAzdEzdIzdOzdWAAzcSHW",
   "AzgAzfEzfIzgIzfOzgOzdWAzfAzeEzeIzfIzeOzfOzcTHWAAzdWAzfAzeEzeIzfIzeOzfOzcWAzeAzdEzdIzeIzdOzeOz",
   "cYzdWAzfAzeEzeIzfIzeOzfOwERN WtIuItOuOvDS-CREE FINAL THzdTHzfAzfEzfIzfOzfWAzhAzgEEzgIzhIzgOzh",
   "OsYt-CREE COOzKOOzLOOzMOOzNOOzOOzPOOzaWAAzSOOzTOOzWzYOOtAuAvIuYtEtIuItOuOuYtWAvAuEuIvIuOvOcCE",
   "Lf CHARACTERgTAGfLATION XeRcDLEdYcNED FOODcOEbPITULUMcRICORNbR SLIDINGcD FILE BOXeINDEXj DIVI",
   "DERScE OFdTe INSERTION POINTcIAN LETTER Ao2nBnC-18p39nDo2nEo2nGo2nIoInKo2nLoDp2nMoBp2p3p4nNoD",
   "oGoNnOnPo2nQnRoRnSoHp2oSoTp2nToTp2nUoUpUq2q3qUnXcONdUSEL HORSEcP STREAMERdENTRY SAWcRIAGE RET",
   "URNdOTbSTLEbTc FACEh WITH TEARS OF JOYnWRY SMILEbUCASIAN ALBANIAN CITATION MARKsLETTER ALTzaO",
   "RzBETzCARzbYNzaHAzcTzbIzbOYzaYAWzcYzDATzaYANzaZAYzbYAYzEBzaYNzFAMzGHEYSzaIMzHEYTzINYAzaRBzaWN",
   "zJAYNzaHOXzKARzaIWzLANzaYITzMAQzNOWCzONzPENzaIWRzQARzbYzRATzSEYKzaHAzcKzbOYzTASzaIWRzaYAYzVEY",
   "ZzXEYNzYAYDzaOWDzZARLzaHAzbILcTION SIGNaCHaEDI SIGNdLLAbLTIC CROSSbNT SIGNdRE LINE SYMBOLfLIN",
   "E LOW LINEkOVERLINEbRESaGJaHAINSdRcKMA AU MARKgDANDAhIGIT EIGHTmFIVEnOURmNINEmONEmSEVENnIXmTH",
   "REEnWOmZEROhOUBLE DANDAgLETTER AAnBAAoHAAnCAAoHAAnDAAoDAApHAAoHAAnEnGAAoHAAnHAAnInJAAoHAAnKAA",
   "oHAAnLAAoHAAnMAAnNAAoGAAoNAAoYAAnPAAoHAAnRAAnSAAnTAAoHAAoTAApHAAnUnVAAnWAAnYAAoYAAgMAAYYAAgO ",
   "MARKgQUESTION MARKgSECTION MARKhIGN ANUSVARAlCANDRABINDUlVISARGAgVIRAMAhOWEL SIGN AsAsIsUrEsI",
   "rIsIrOsIrUsUcM CONSONANT SIGN FINAL HzMzNGtLAtRAtWAtYAeDIGIT EIGHTkFIVElOURkNINEkONEkSEVENlIX",
   "kTHREElWOkZEROeLETTER AmIlBAmBAmHAlCHAnHAlDAmDAmHAlElFINAL CHrGrKrLrNsGrPrRrSSrTrYlGAmHAlHAlI",
   "lJAmHAlKAmHAlLAlMAmUElNAmGAnUEmHAnJAnUEmUElOlPAmHAmPAlRAlSAmSAlTAmHAlUlVAlYAePUNCTUATION DAND",
   "ArOUBLE DANDAqSPIRALqTRIPLE DANDAeVOWEL SIGN AAqIqUpEIpIqIpOqEpUqEcRACTER TABULATIONt SETuWIT",
   "H JUSTIFICATIONkIEdT WITH DOWNWARDS TRENDkUPWARDS TRENDx AND YEN SIGNbECK MARKeER BOARDm FILL",
   "cERING MEGAPHONEdSE WEDGEcQUERED FLAGcROKEE LETTER ApDAqEqIqLAqOqUqVpEpGAqEqIqOqUqVpHAqEqIqNA",
   "qOqUqVpIpKApLAqEqIqOqUqVpMAqEqIqOqUqVpNArHqEqIqOqUqVpOpQUArErIrOrUrVpSqAqEqIqOqUqVpTAqEqIqLAr",
   "ErIrOrUrVqSArErIrOrUrVpUpVpWAqEqIqOqUqVpYAqEqIqOqUqViSMALL LETTER AvDAwEwIwLAwOwUwVvEvGAwEwIw",
   "OwUwVvHAwEwIwNAwOwUwVvIvKAvLAwEwIwOwUwVvMAwEwIwOwUwVvNAxHwEwIwOwUwVvOvQUAxExIxOxUxVvSwAwEwIwO",
   "wUwVvTAwEwIwLAxExIxOxUxVwSAxExIxOxUxVvUvVvWAwEwIwOwUwVvYAwEwIwOwUwVdRIESeY BLOSSOMcSTNUTbI RH",
   "OcCKENcLDeREN CROSSINGcPMUNKcRONbOCOLATE BARcPSTICKScRASMIAN LETTER ALEPHsYINrBETHrCURLED WAW",
   "rDALETHrGIMELrHEtTHrKAPHrLAMEDHrMEMrNUNrPErRESHrSAMEKHsHINsMALL ALEPHrTAWrWAWrYODHrZAYINkNUMB",
   "ER FOURrONEu HUNDREDrTENsHREEsWENTYtObRISTMAS TREEbURCHaINEMAbRCLE DIVIDED BY HORIZONTAL BAR ",
   "AND TOP HALF DIVIDED BY VERTICAL BARgWITH ALL BUT UPPER LEFT QUADRANT BLACKlHORIZONTAL BARlLE",
   "FT HALF BLACKmOWER HALF BLACKlRIGHT HALF BLACKlSMALL CIRCLE TO THE RIGHTmUPERIMPOSED XlTWO HO",
   "RIZONTAL STROKES TO THE RIGHTlUPPER HALF BLACKrRIGHT QUADRANT BLACKlVERTICAL FILLfD ANTICLOCK",
   "WISE ARROWu-ROTATED DIVISION SIGNiSTERISK OPERATORhBOLD XiULLEThC WITH OVERLAID BACKSLASHiCiD",
   "iROSS FORMEEt WITH FOUR DOTSzTWO DOTSnPOMMEEmING LANEShDASHiIGIT EIGHTnFIVEoOURnNINEnONEnSEVE",
   "NoIXnTHREEoWOnZEROjVISION SIGNrLASHiOLLAR SIGN WITH OVERLAID BACKSLASHjT OPERATORhEQUALShGREA",
   "TER-THANhHANGUL CHIEUCHv ApIEUCt AoHIEUHt AoIEUNGt AuUoKHIEUKHv ApIYEOKu AoMIEUMt AoNIEUNt Ao",
   "PHIEUPHv ApIEUPt AoRIEULt AoSIOSs AoTHIEUTHv ApIKEUTu AiEAVY WHITE RIGHTWARDS ARROWiORIZONTAL",
   " BAR WITH NOTCHiUMAN FIGUREhIDEOGRAPH ACCEPTsDVANTAGEsLLIANCEsTTENTIONrCENTREsONGRATULATIONtP",
   "YtRRECTrEARTHsIGHTsNTERPRISEsXCELLENTrFEMALEsINANCIALtREtVEsOURrHAVEsIGHrITEMrKINDERGARTENsOT",
   "OrLABORsEFTsOWrMALEsEDICINEtTALsOONrNAMEsIGHTtNErONErPRINTrQUESTIONrRELIGIONtSOURCEuTsIGHTrSC",
   "HOOLsECRETtVENsIXsOCIETYsPECIALsTOCKtUDYsUITABLEtNtPERVISErTENsHREEsWOrWATERsOODiNFORMATION S",
   "OURCEiTALIC LATIN CAPITAL LETTER CzjRhKATAKANA AqEqHArErIrOrUqIqKArErIrOrUqMArErIrOrUqNArErIr",
   "OrUqOqRArErIrOrUqSArErIrOrUqTArErIrOrUqUqWArErIrOqYArOrUiOREAN CHARACTER CHAMKOyJUEUIhLATIN C",
   "APITAL LETTER AzcBzcCzcDzcEzcFzcGzcHzcIzcJzcKzcLzcMzcNzcOzcPzcQzcRzcSzcTzcUzcVzcWzcXzcYzcZnSM",
   "ALL LETTER AzaBzaCzaDzaEzaFzaGzaHzaIzaJzaKzaLzaMzaNzaOzaPzaQzaRzaSzaTzaUzaVzaWzaXzaYzaZiESS-T",
   "HANhMINUSiULTIPLICATION SIGN WITH CIRCUMFLEX ACCENThNUMBER EIGHTEENtY ON BLACK SQUAREpLEVENoF",
   "IFTEENsYt ON BLACK SQUAREpORTYt EIGHTuFIVEvOURuNINEuON BLACK SQUAREwEuSEVENvIXuTHREEvWOqURTEE",
   "NoNINETEENoSEVENTEENuY ON BLACK SQUAREpIXTEENsY ON BLACK SQUAREoTENr ON BLACK SQUAREpHIRTEENt",
   "Yu EIGHTvFIVEwOURvNINEvON BLACK SQUARExEvSEVENwIXvTHREEwWOpWELVErNTYu EIGHTvFIVEwOURvNINEvON ",
   "BLACK SQUARExEvSEVENwIXvTHREEwWOhOPEN CENTRE EIGHT POINTED STARhPARALLELiERPENDICULARiLUSiOST",
   "AL MARKhREVERSE SOLIDUSiING OPERATORhSQUAREhTIMESiRIANGLEp DOWNhVERTICAL BARhWHITE BULLETnSTA",
   "RiZhXhZERO WITH SLASHdULATION FUNCTIONeMFLEX ACCENTeS TENTbTYSCAPEi AT DUSKaJK COMPATIBILITY ",
   "IDEOGRAPH-2F800zf1zf2zf3zf4zf5zf6zf7zf8zf9zfAzfBzfCzfDzfEzfFze10zf1zf2zf3zf4zf5zf6zf7zf8zf9zf",
   "AzfBzfCzfDzfEzfFze20zf1zf2zf3zf4zf5zf6zf7zf8zf9zfAzfBzfCzfDzfEzfFze30zf1zf2zf3zf4zf5zf6zf7zf8",
   "zf9zfAzfBzfCzfDzfEzfFze40zf1zf2zf3zf4zf5zf6zf7zf8zf9zfAzfBzfCzfDzfEzfFze50zf1zf2zf3zf4zf5zf6z",
   "f7zf8zf9zfAzfBzfCzfDzfEzfFze60zf1zf2zf3zf4zf5zf6zf7zf8zf9zfAzfBzfCzfDzfEzfFze70zf1zf2zf3zf4zf",
   "5zf6zf7zf8zf9zfAzfBzfCzfDzfEzfFze80zf1zf2zf3zf4zf5zf6zf7zf8zf9zfAzfBzfCzfDzfEzfFze90zf1zf2zf3",
   "zf4zf5zf6zf7zf8zf9zfAzfBzfCzfDzfEzfFzeA0zf1zf2zf3zf4zf5zf6zf7zf8zf9zfAzfBzfCzfDzfEzfFzeB0zf1z",
   "f2zf3zf4zf5zf6zf7zf8zf9zfAzfBzfCzfDzfEzfFzeC0zf1zf2zf3zf4zf5zf6zf7zf8zf9zfAzfBzfCzfDzfEzfFzeD",
   "0zf1zf2zf3zf4zf5zf6zf7zf8zf9zfAzfBzfCzfDzfEzfFzeE0zf1zf2zf3zf4zf5zf6zf7zf8zf9zfAzfBzfCzfDzfEz",
   "fFzeF0zf1zf2zf3zf4zf5zf6zf7zf8zf9zfAzfBzfCzfDzfEzfFzd900zf1zf2zf3zf4zf5zf6zf7zf8zf9zfAzfBzfCz",
   "fDzfEzfFze10zf1zf2zf3zf4zf5zf6zf7zf8zf9zfAzfBzfCzfDzfEzfFze20zf1zf2zf3zf4zf5zf6zf7zf8zf9zfAzf",
   "BzfCzfDzfEzfFze30zf1zf2zf3zf4zf5zf6zf7zf8zf9zfAzfBzfCzfDzfEzfFze40zf1zf2zf3zf4zf5zf6zf7zf8zf9",
   "zfAzfBzfCzfDzfEzfFze50zf1zf2zf3zf4zf5zf6zf7zf8zf9zfAzfBzfCzfDzfEzfFze60zf1zf2zf3zf4zf5zf6zf7z",
   "f8zf9zfAzfBzfCzfDzfEzfFze70zf1zf2zf3zf4zf5zf6zf7zf8zf9zfAzfBzfCzfDzfEzfFze80zf1zf2zf3zf4zf5zf",
   "6zf7zf8zf9zfAzfBzfCzfDzfEzfFze90zf1zf2zf3zf4zf5zf6zf7zf8zf9zfAzfBzfCzfDzfEzfFzeA0zf1zf2zf3zf4",
   "zf5zf6zf7zf8zf9zfAzfBzfCzfDzfEzfFzeB0zf1zf2zf3zf4zf5zf6zf7zf8zf9zfAzfBzfCzfDzfEzfFzeC0zf1zf2z",
   "f3zf4zf5zf6zf7zf8zf9zfAzfBzfCzfDzfEzfFzeD0zf1zf2zf3zf4zf5zf6zf7zf8zf9zfAzfBzfCzfDzfEzfFzeE0zf",
   "1zf2zf3zf4zf5zf6zf7zf8zf9zfAzfBzfCzfDzfEzfFzeF0zf1zf2zf3zf4zf5zf6zf7zf8zf9zfAzfBzfCzfDzfEzfFz",
   "dA00zf1zf2zf3zf4zf5zf6zf7zf8zf9zfAzfBzfCzfDzfEzfFze10zf1zf2zf3zf4zf5zf6zf7zf8zf9zfAzfBzfCzfDz",
   "bF900ze1ze2ze3ze4ze5ze6ze7ze8ze9zeAzeBzeCzeDzeEzeFzd10ze1ze2ze3ze4ze5ze6ze7ze8ze9zeAzeBzeCzeD",
   "zeEzeFzd20ze1ze2ze3ze4ze5ze6ze7ze8ze9zeAzeBzeCzeDzeEzeFzd30ze1ze2ze3ze4ze5ze6ze7ze8ze9zeAzeBz",
   "eCzeDzeEzeFzd40ze1ze2ze3ze4ze5ze6ze7ze8ze9zeAzeBzeCzeDzeEzeFzd50ze1ze2ze3ze4ze5ze6ze7ze8ze9ze",
   "AzeBzeCzeDzeEzeFzd60ze1ze2ze3ze4ze5ze6ze7ze8ze9zeAzeBzeCzeDzeEzeFzd70ze1ze2ze3ze4ze5ze6ze7ze8",
   "ze9zeAzeBzeCzeDzeEzeFzd80ze1ze2ze3ze4ze5ze6ze7ze8ze9zeAzeBzeCzeDzeEzeFzd90ze1ze2ze3ze4ze5ze6z",
   "e7ze8ze9zeAzeBzeCzeDzeEzeFzdA0ze1ze2ze3ze4ze5ze6ze7ze8ze9zeAzeBzeCzeDzeEzeFzdB0ze1ze2ze3ze4ze",
   "5ze6ze7ze8ze9zeAzeBzeCzeDzeEzeFzdC0ze1ze2ze3ze4ze5ze6ze7ze8ze9zeAzeBzeCzeDzeEzeFzdD0ze1ze2ze3",
   "ze4ze5ze6ze7ze8ze9zeAzeBzeCzeDzeEzeFzdE0ze1ze2ze3ze4ze5ze6ze7ze8ze9zeAzeBzeCzeDzeEzeFzdF0ze1z",
   "e2ze3ze4ze5ze6ze7ze8ze9zeAzeBzeCzeDzeEzeFzcA00ze1ze2ze3ze4ze5ze6ze7ze8ze9zeAzeBzeCzeDzeEzeFzd",
   "10ze1ze2ze3ze4ze5ze6ze7ze8ze9zeAzeBzeCzeDzeEzeFzd20ze1ze2ze3ze4ze5ze6ze7ze8ze9zeAzeBzeCzeDzeE",
   "zeFzd30ze1ze2ze3ze4ze5ze6ze7ze8ze9zeAzeBzeCzeDzeEzeFzd40ze1ze2ze3ze4ze5ze6ze7ze8ze9zeAzeBzeCz",
   "eDzeEzeFzd50ze1ze2ze3ze4ze5ze6ze7ze8ze9zeAzeBzeCzeDzeEzeFzd60ze1ze2ze3ze4ze5ze6ze7ze8ze9zeAze",
   "BzeCzeDzd70ze1ze2ze3ze4ze5ze6ze7ze8ze9zeAzeBzeCzeDzeEzeFzd80ze1ze2ze3ze4ze5ze6ze7ze8ze9zeAzeB",
   "zeCzeDzeEzeFzd90ze1ze2ze3ze4ze5ze6ze7ze8ze9zeAzeBzeCzeDzeEzeFzdA0ze1ze2ze3ze4ze5ze6ze7ze8ze9z",
   "eAzeBzeCzeDzeEzeFzdB0ze1ze2ze3ze4ze5ze6ze7ze8ze9zeAzeBzeCzeDzeEzeFzdC0ze1ze2ze3ze4ze5ze6ze7ze",
   "8ze9zeAzeBzeCzeDzeEzeFzdD0ze1ze2ze3ze4ze5ze6ze7ze8ze9dRADICAL BAMBOOmLUEmOLT OF CLOTHnNEnXmRU",
   "SH ONErTWOlC-SIMPLIFIED BIRDyCARTyDRAGONyEATzVENyFISHzLYzROGyGATEzOLDyHORSEyLEAFzONGySALTzEEz",
   "HELLzILKzPEECHyTANNED LEATHERzOOTHzURTLEyWINDmHOKEmITYnVILIANmLIFFnOTHESmOWlDEATHmIVINATIONmO",
   "GlEAT ONEpTHREEqWOmWEmYElFIREmOOTlGHOSTmRASS ONErTHREEsWOlHANDmEADoRT ONErTWOmORNlJ-SIMPLIFIE",
   "D DRAGONyEVENyTOOTHzURTLEmADElKNIFE ONErTWOlLAME FOURqONEqTHREErWOmONG ONEqTWOlMEATnSHmOONnRT",
   "ARnTHERnUND ONErTWOlNET FOURpONEpTHREEqWOlOLDlPAW ONEpTWOmERSONlRAINnMnPmEPEATlSEALnCOND ONEs",
   "THREEtWOmHEEPmILKnMPLIFIED HALF TREE TRUNKxORNwWALKxHEATwYELLOWmMALL ONErTWOmNAKEnOUT ONErTWO",
   "mPIRIT ONEsTWOmUNlTABLEmHREADmIGERmURTLElWALK ONEqTWOnTER ONErTWOmEST ONEqTWOdSTROKE BXGkDkHl",
   "GlPmWGlXWGlZmGmTmWnGmZnPnZoGkNkPlDlGlZkQkSlGlPlTlWmGmZlZmWGmZkTlNkWGkXGaLAMSHELL MOBILE PHONE",
   "cPPER BOARDeING HANDS SIGNcSSICAL BUILDINGbEAR SCREEN SYMBOLbINKING BEER MUGSiGLASSEScPBOARDb",
   "OCK FACE EIGHT OCLOCKp-THIRTYlLEVEN OCLOCKq-THIRTYkFIVE OCLOCKo-THIRTYlOUR OCLOCKo-THIRTYkNIN",
   "E OCLOCKo-THIRTYkONE OCLOCKn-THIRTYkSEVEN OCLOCKp-THIRTYlIX OCLOCKn-THIRTYkTEN OCLOCKn-THIRTY",
   "lHREE OCLOCKp-THIRTYlWELVE OCLOCKq-THIRTYmO OCLOCKn-THIRTYeWISE CLOSED CIRCLE ARROWkONTOUR IN",
   "TEGRALjDOWNWARDS AND UPWARDS OPEN CIRCLE ARROWSjGAPPED CIRCLE ARROWjINTEGRALjOPEN CIRCLE ARRO",
   "WjRIGHT AND LEFT SEMICIRCLE ARROWSoWARDS AND LEFTWARDS OPEN CIRCLE ARROWSzza WITH CIRCLED ONE",
   " OVERLAYjTOP SEMICIRCLE ARROWkRIANGLE-HEADED OPEN CIRCLE ARROWcSE UPeD BOOKgINTERSECTION WITH",
   " SERIFSgLOCK WITH KEYgMAILBOX WITH LOWERED FLAGtRAISED FLAGgSUBSETm OR EQUAL TOiPERSETo OR EQ",
   "UAL TOgUMBRELLAhNION WITH SERIFSx AND SMASH PRODUCTcUDe WITH LIGHTNINGkRAINkSNOWkTORNADOcWN F",
   "ACEaOATbCKROACHdTAIL GLASScONUTbFFINbINbLLISION SYMBOLcONe EQUALSfSIGNbMBINING ACUTE ACCENTv ",
   "BELOWpTONE MARKo-GRAVE-ACUTEpMACRONkLMOST EQUAL TO ABOVEzBELOWkNNUITY SYMBOLlTICLOCKWISE ARRO",
   "W ABOVExRING OVERLAYkSTERISK ABOVEsBELOWjBINDU BELOWkREVEo BELOWo-MACRONlIDGE ABOVEqBELOWjCAN",
   "DRABINDUlRONo BELOWkEDILLAkIRCUMFLEX ACCENTza BELOWkLOCKWISE ARROW ABOVEtRING OVERLAYkOMMA AB",
   "OVEu RIGHTpBELOWlNJOINING MACRONza BELOWkYRILLIC DASIA PNEUMATAsHUNDRED MILLIONS SIGNzaTHOUSA",
   "NDS SIGNsKAVYKAsLETTER AzBEzaIG YUSzCHEzDEzaJERVzEFzaLzaMzaNzaRzaSzb-TEzFITAzGHEzHAzbRD SIGNz",
   "IzaEzaOTIFIED AziBIG YUSziEzKAzLITTLE YUSzMONOGRAPH UKzOzaMEGAzPEzSHAzbCHAzaOFT SIGNzTEzaSEzU",
   "zaKRAINIAN IEzVEzYATzaERUzaIzaUzZEzaHEsMILLIONS SIGNsPALATALIZATIONuYEROKtOKRYTIEtSILI PNEUMA",
   "TAsTEN MILLIONS SIGNtHOUSAND MILLIONS SIGNtITLOx LEFT HALFyRIGHT HALFsVZMETjDELETION MARKlVAN",
   "AGARI DIGIT EIGHTzaFIVEzbOURzaNINEzaONEzaSEVENzbIXzaTHREEzbWOzaZEROuLETTER AzbKAzbNAzbPAzbRAz",
   "bUzbVIuSIGN AVAGRAHAkIAERESISs BELOWs-RINGkOT ABOVEs LEFTtRIGHTnBELOWs LEFTmTED ACUTE ACCENTq",
   "GRAVE ACCENTlUBLE ACUTE ACCENTqBREVEv BELOWqCIRCUMFLEX ABOVEqGRAVE ACCENTqINVERTED BREVEze BE",
   "LOWqLOW LINEqMACRONw BELOWqOPEN MARK BELOWrVERLINEqPARENTHESES ABOVErLUS SIGN ABOVEzaBELOWqRI",
   "GHTWARDS ARROW BELOWsNG BELOWqTILDEv LEFT HALFwRIGHT HALFqVERTICAL LINE ABOVEzeBELOWzSTROKE O",
   "VERLAYpD CIRCUMFLEX ACCENTlWN TACK BELOWnWARDS ARROWjENCLOSING CIRCLEz BACKSLASHtDIAMONDtKEYC",
   "APtSCREENuQUAREtUPWARD POINTING TRIANGLEkQUALS SIGN BELOWjFERMATAkOUR DOTS ABOVEjGLAGOLITIC L",
   "ETTER AZUzbBIG YUSzcUKYzbCHRIVIzbDJERVIzcOBROzbFITAzcRITUzbGLAGOLIzbHERUzbIzcNITIAL IZHEzcOTA",
   "TED BIG YUSzjSMALL YUSzcZHEzbKAKOzbLJUDIJEzbMYSLITEzbNASHIzbONUzbPOKOJIzbRITSIzbSHAzdTAzcLOVO",
   "zcMALL YUSzbTSIzcVRIDOzbUKUzbVEDEzbYATIzcERIzeUzdSTUzcOzcUzbZEMLJAzcHIVETEkRANTHA DIGIT FIVEy",
   "OURxONExSIXxTHREEyWOxZEROrLETTER AyKAyNAyPAyVImPHEME JOINERmVE ACCENTv BELOWpTONE MARKo-ACUTE",
   "-GRAVEpMACRONlEEK DIALYTIKA TONOSpKORONISpMUSICAL PENTASEMExTETRASEMEyRISEMEpPERISPOMENIpYPOG",
   "EGRAMMENIjHOMOTHETIC ABOVElOK ABOVElRNjINFINITYlVERTED BREVEx BELOWuIDGE BELOWsDOUBLE ARCH AB",
   "OVEzeBELOWkS BELOWjKATAKANA-HIRAGANA SEMI-VOICED SOUND MARKzbVOICED SOUND MARKlVYKA ABOVE LEF",
   "TwRIGHTjLATIN LETTER SMALL CAPITAL GzkLzkMzkNzkRpSMALL LETTER Azd WITH DIAERESISzdEzdLPHAzdOz",
   "dVzcBzdETAzcCzd CEDILLAzcDzcEzdSHzdTHzcFzdLATTENED OPEN A ABOVEzcGzcHzcIzdNSULAR DzkGzkRzkTzc",
   "KzcLzd WITH DOUBLE MIDDLE TILDEzdONG SzcMzcNzcOzd WITH DIAERESISzjLIGHT CENTRALIZATION STROKE",
   "zcPzcRzd BELOWzeROTUNDAzcSzdCHWAzcTzdURNED W BELOWzcUzd WITH DIAERESISzjLIGHT CENTRALIZATION ",
   "STROKEzcVzcWzd BELOWzcXzcZkEFT ANGLE ABOVEuBELOWpRROW ABOVEuBELOWtHEAD ABOVEyBELOWoHALF RING ",
   "ABOVEyBELOWqRPOON ABOVEoPARENTHESIS ABOVE LEFTzaBELOW LEFToRIGHT ARROW ABOVEzaBELOWoTACK BELO",
   "WnWARDS ARROW OVERLAYtHARPOON WITH BARB DOWNWARDSkIGATURE LEFT HALFzb BELOWsRIGHT HALFzc BELO",
   "WmHT CENTRALIZATION STROKE BELOWkONG DOUBLE SOLIDUS OVERLAYoSOLIDUS OVERLAYpTROKE OVERLAYoVER",
   "TICAL LINE OVERLAYlW LINEjMACRONp BELOWqLEFT HALFz BELOWqRIGHT HALFza BELOWp-ACUTEqBREVEqGRAV",
   "EkINUS SIGN BELOWjNOT TILDE ABOVEkUMBER SIGN ABOVEjOGONEKp ABOVEkLD PERMIC LETTER ANzbDOIzbNE",
   "NOEzbSIIzbZATAkPEN MARK BELOWkVERLINEjPALATALIZED HOOK BELOWlRENTHESES ABOVEvBELOWvOVERLAYkLU",
   "S SIGN ABOVEtBELOWjRETROFLEX HOOK BELOWlVERSE SOLIDUS OVERLAYqD COMMA ABOVEkIGHT ARROW ABOVEv",
   "BELOWuHEAD ABOVEzaND DOWN ARROWHEAD BELOWzdUP ARROWHEAD BELOWzBELOWpHALF RING ABOVEzBELOWrRPO",
   "ON ABOVEpPARENTHESIS ABOVE RIGHTzbBELOW RIGHTpTACK BELOWoWARDS HARPOON WITH BARB DOWNWARDSlNG",
   " ABOVEoBELOWoOVERLAYjSEAGULL BELOWkHORT SOLIDUS OVERLAYqTROKE OVERLAYpVERTICAL LINE OVERLAYkN",
   "AKE BELOWkQUARE BELOWrRACKETS ABOVEkTRONG CENTRALIZATION STROKE BELOWkUSPENSION MARKjTHREE DO",
   "TS ABOVEkILDEo BELOWpLEFT HALF BELOWpOVERLAYpRIGHT HALF BELOWkRIPLE ACUTE ACCENTqDOTqUNDERDOT",
   "kURNED COMMA ABOVEjUP TACK ABOVErBELOWlWARDS ARROW BELOWkR ABOVEkS ABOVEjVERTICAL LINE ABOVEx",
   "BELOWsTILDEjWIDE BRIDGE ABOVEoINVERTED BRIDGE BELOWlGGLY LINE BELOWjX ABOVElBELOWk-X BELOWjZI",
   "GZAG ABOVEqBELOWcETcMAdERCIAL ATkMINUS SIGNcPASSdLEMENTdOSITION SYMBOLdRESSIONbNFETTI BALLdOU",
   "NDED FACEdUSED FACEcGRUENT WITH DOT ABOVEcICAL TAPERcJUNCTIONcSTRUCTION SIGNmWORKERcTAINS AS ",
   "MEMBERlNORMAL SUBGROUPza OR EQUAL TOiWITH LONG HORIZONTAL STROKEnOVERBARnVERTICAL BAR AT END ",
   "OF HORIZONTAL STROKEdINUOUS UNDERLINE SYMBOLdOUR INTEGRALdROL KNOBShSEQUENCE INTRODUCERcVENIE",
   "NCE STOREbOKED RICEdIEeNGbPTIC CAPITAL LETTER AKHMIMIC KHEIwLFAvBOHAIRIC KHEIvCROSSED SHEIxYP",
   "TOGRAMMIC EIEzjGANGIAzjNIzjSHEIvDALDAwEIwIALECT-P ALEFzfHORIzfKAPAzfNIvEIEvFEIwIvGAMMAxNGIAvH",
   "ATEwORIvIAUDAvKAPAwHEIxIwSIvL-SHAPED HAwAULAvMIvNIvOwLD COPTIC AINzgDJAzgESHzgGANGIAzgHAziTzh",
   "EIzhORIzgOOUzgSHEIziIMAzNUBIAN NGIzhYIzgSHIMAzgWAUwOUvPIwSIvROvSAMPIwHEIxIMAwIMAwOUvTAUwHETHE",
   "vUAvVIDAvZATAhOMBINING NI ABOVEqSPIRITUS ASPERzLENISgEPACT DIGIT EIGHTsFIVEtOURsNINEsONEsSEVE",
   "NtIXsTHREEtWOmNUMBER EIGHT HUNDREDyYtFIFTYvVE HUNDREDuORTYvUR HUNDREDtNINE HUNDREDxTYtONE HUN",
   "DREDtSEVEN HUNDREDyTYuIX HUNDREDwTYtTENuHIRTYvREE HUNDREDuWENTYvO HUNDREDmTHOUSANDS MARKgFRAC",
   "TION ONE HALFhULL STOPgMORPHOLOGICAL DIVIDERgOLD NUBIAN DIRECT QUESTION MARKrFULL STOPrINDIRE",
   "CT QUESTION MARKrVERSE DIVIDERgSMALL LETTER AKHMIMIC KHEIuLFAtBOHAIRIC KHEItCROSSED SHEIvYPTO",
   "GRAMMIC EIEzhGANGIAzhNIzhSHEItDALDAuEIuIALECT-P ALEFzdHORIzdKAPAzdNItEIEtFEIuItGAMMAvNGIAtHAT",
   "EuORItIAUDAtKAPAuHEIvIuSItL-SHAPED HAuAULAtMItNItOuLD COPTIC AINzeDJAzeESHzeGANGIAzeHAzgTzfEI",
   "zfORIzeOOUzeSHEIzgIMAxNUBIAN NGIzfYIzeSHIMAzeWAUuOUtPIuSItROtSAMPIuHEIvIMAuIMAuOUtTAUuHETHEtU",
   "AtVIDAtZATAhYMBOL KAIoHI ROnMI ROnPI ROnSHIMA SIMAoTAUROSnTAU ROcYLEFT SYMBOLdRIGHT SIGNbRALc",
   "NISH VERSE DIVIDERcRESPONDS TObUCH AND LAMPcNTERBOREgSINKeING ROD TENS DIGIT EIGHTxFIVEyOURxN",
   "INExONExSEVENyIXxTHREEyWOmUNIT DIGIT EIGHTxFIVEyOURxNINExONExSEVENyIXxTHREEyWOcPLE WITH HEART",
   "bWc FACEaRbABbEDIT CARDcSCENT MOONbICKETg BAT AND BALLbOCODILEcISSANTcSS MARKfOF JERUSALEMiLO",
   "RRAINEfPATTY WITH LEFT CROSSBARqRIGHT CROSSBARgOMMEEl WITH HALF-CIRCLE BELOWeED FLAGShNEGATIV",
   "E SQUARED LATIN CAPITAL LETTER PhSWORDSeING LANEScWNbUTCHcZEIRO SIGNbYING CAT FACEgFACEcSTAL ",
   "BALLaSIaUBE ROOTbCUMBERbNEIFORM NUMERIC SIGN EIGHT ASHzcDISHzcGESH2zcSHAR2zcUzd VARIANT FORMz",
   "cVARIANT FORM USSUzt3xLAMITE FIFTYzfORTYzeONE THIRDzeTWO THIRDSwFIVE ASHze TENUzbBAN2zf VARIA",
   "NT FORMzcURUzbDISHzbGESH2zfUzbSHAR2zfUzcIXTHS DISHzbUzc VARIANT FORMxOUR ASHze TENUzbBAN2zf V",
   "ARIANT FORMzcURUzbDISHzbGESH2zfUzbSHAR2zfUzbUzc VARIANT FORMzbVARIANT FORM LIMMUzt AzuBzt4wNI",
   "GIDAESHzcMINyNE ASHzbDISHzbGESH2zbSHAR2zbUzc VARIANT FORMzbVARIANT FORM ILIMMUzu Azu3zu4wOLD ",
   "ASSYRIAN ONE QUARTERznSIXTHxNE BAN2zbURUzaEIGHTH ASHzbSHE3zaGESH2zeUzaHALF GURzaQUARTER ASHzi",
   "GURzaSHARUzaTHIRD DISHzgVARIANT FORM AwSEVEN ASHzcDISHzcGESH2zcSHAR2zcUzd VARIANT FORMzcVARIA",
   "NT FORM IMIN AzuBzt3xHAR2 TIMES GAL PLUS DISHzrMINxIX ASHzd TENUzaDISHzaGESH2zaSHAR2zaUzb VAR",
   "IANT FORMzaVARIANT FORM ASH9wTHREE ASHzf TENUzcBAN2zdURUzg VARIANT FORMzcDISHzcGESH2zgUzcSHAR",
   "2zh VARIANT FORMzgUzh VARIANT FORMzcVARIANT FORM ESH16zs21xWO ASHzd TENUzaBAN2zbURUzaESHE3zaG",
   "ESH2zeUzaSHAR2zeUzaTHIRDS DISHzhVARIANT FORM AjPUNCTUATION SIGN DIAGONAL COLONzjQUADCOLONzjTR",
   "ICOLONzaOLD ASSYRIAN WORD DIVIDERzaVERTICAL COLONjSIGN Ap TIMES AwBADwGAN2 TENUwHAwIGIwLAGAR ",
   "GUNUwMUSHwSAGp2pBq GUNUrTIMES ASH2xDUN3 GUNUxGALzN2 TENUxHAxIGI GUNUyMINxLAGABxNUNza TENUxSHE",
   "SHzU2xU PLUS U PLUS Uq2r TIMES AyBALAGyGAN2 TENUyME PLUS ENySHA3yTAK4pDq TIMES ESH2pKq TIMES ",
   "ERIN2xSHITA PLUS GISHpLq TIMES ALxDIM2xGISHxHAxKAD3yIxSHExUSHqANqEPHpMARs TIMES KUGzSHEpNq OV",
   "ER ANrPLUS NAGA OPPOSING AN PLUS NAGAzbSQUAREDrTHREE TIMESqSHEpPINpRADs TIMES KURqKABpSAL2qHr",
   " KABA TENUsOVER ASH OVER ASHzj CROSSING ASH OVER ASH OVER ASHzbTUG2 OVER TUG2 TUG2 OVER TUG2 ",
   "PAPsZIDA TENUr2rGABoBAqDr TIMES DISH TENUqG3qHAR2u TIMES AB2zbNIzbZAqLr OVER BALrAGqRrA2pIq T",
   "IMES AxGARxIGI GUNUpUq CROSSING BUrOVER BU ABzTIMES NA2zUNqLUGt OVER BULUGqRr2oDAq TIMES TAK4",
   "qGr KISIM5 TIMES A PLUS MASHzgMARzfBALAGzgIzfGAzh PLUS MASHzgIzhR2zgUDzfHAzfIRzh PLUS LUzfKAK",
   "zfLAzgUzh PLUS MASH2zhMzfNEzfPAP PLUS PAPzfSIzfTAK4zfU2 PLUS GIR2znMASHzgSHsTIMES KURr3qMqRrA",
   "3s4pIqBqMr TIMES IGIySHEyU U Ur2s TIMES UDqNr KASKAL U GUNU DISHqSHs PLUS SHUpUq GUNUrOVER DU",
   "rSHESHIGqBr TIMES ESH2ySHEr2qGr TIMES ANSHEzSHzb AT LEFTyDINzUNyERIN2yGAzIzaR2 GUNUzaSHyHAzIy",
   "IGI GUNUyKASKALzURzaSHU2ze PLUS KASKALyLAK-020zaMzb TIMES KURzUH PLUS GISHyMASHzESzIyNIyPIySH",
   "EzI GUNUrUDqHqNr3s GUNUx GUNUr4qR2oEp OVER E NUN OVER NUNqTIMES PAPp2q TIMES A PLUS HA PLUS D",
   "AxGARxKURxMIxPAPxSALyHExUpDINpGIRpLpNq CROSSING ENrOPPOSING ENrSQUAREDrTIMES GAN2zb TENUxMEpR",
   "ENqIN2t XpSH2s CROSSING ESH2pZENs SHESHIG TIMES ASHzhHIzhIGI GUNUzhLAzjLzhMEzjSzhSUtTIMES Aza",
   " PLUS LALzj TIMES LALzaNzBADzDUN3 GUNUzi GUNUzGUDzHAzb GUNUzIGI GUNUzKASKALzf SQUAREDzaU3zLAz",
   "bL TIMES LALzaIzaUzSHEzaUzU2zaDoGAq GUNUq2r OVER GA2sTIMES A PLUS DA PLUS HAzfHAzfIGIzB2 TENU",
   " PLUS TABzNza PLUS KAK PLUS AzSHzb2zc PLUS GALyBADzaHAR2zaR PLUS RAzURzb PLUS RAyDAzIzaM GUNU",
   "zcTIMES SHEzUBzaG TIMES IGI GUNUziKASKALyELza PLUS LAzNza TIMES GAN2 TENUzRENyGAzaN2 TENUzaRz",
   "b PLUS DIzhNEzIza4zb PLUS AzaR2 PLUS SUyHA PLUS AzgLU PLUS ESH2zaLzb PLUS LAzI PLUS LIzUB2yIG",
   "I GUNUzSH PLUS HU PLUS ASHyKAKzaSKALzIDzb PLUS LALzU3 PLUS ANzaSHU2 PLUS KASKALyLAzaMzb TIMES",
   " KURzUHyME PLUS ENzIzUSHyNEza PLUS E2zgGIzUNzb OVER NUNyPAySALzaRzHEzb PLUS TURzaIDzbMzUMyTAK",
   "4yUzDza PLUS DUyZIZ2qBAs CROSSING GABAtROTATED NINETY DEGREESqDr OVER GAD GAR OVER GARqLr GAD",
   " OVER GAD GAR OVER GARrAMqMqNr2s CROSSING GAN2tOVER GAN2tTENUqRr3qSHANpE22qSHTINv TIMES KURzc",
   "UpIq CROSSING GIrTIMES ExUq4r CROSSING GI4sOVER GI4qDIMqGqR2s GUNUr3s TIMES A PLUS IGIzGAN2 T",
   "ENUzIGIzLU PLUS IGIzPAqSALrHs CROSSING GISHtTENUuIMES BADzGISH CROSSING GISHzTAK4pUq CROSSING",
   " GUq2r GUNUsTIMES IGI GUNUyKAKzb TIMES IGI GUNUyNUNySAL PLUS TUG2qDr OVER GUD LUGALsPLUS GISH",
   " TIMES TAK4sTIMES A PLUS KURyKURqLqMr TIMES SHEqRr7rUNsSHoHAq GUNUrTENUv GUNUqLpIq TIMES ASHz",
   "a OVER HI TIMES ASHza2xBADxDISHxGADxKINxNUNxSHExUpUqB2s TIMES ANzHALzKASKALzLISHzUDqL2qSHoIp ",
   "ApBpDIMs OVER IDIM BURzdSQUAREDpGqIr DIBsGUNUsOVER IGI SHIR OVER SHIR UD OVER UDsRIpLq TIMES ",
   "GAN2 TENUq2pMq CROSSING IMrOPPOSING IMrSQUAREDrTIMES TAK4qINpNpRpSHoKAq TIMES AyDz PLUS KU3yN",
   "SHEySH2za3xBADzLAGzRyIyUxERIN2ySH2xGAzLzN2 TENUzRza PLUS SHA3 PLUS AyIzR2zSHzb CROSSING GISHz",
   "cPLUS SARyUzDzR7xHI TIMES ASH2xIGIyMxKAzKyIzDxLIyUzMxMEz PLUS DUzfGIzfTEyIz PLUS NUNUZxNEyUNx",
   "PAyIxRUxSAzRyHAzEzIDzUzaLyIGyUHURxTARyUxUy U Uy2yDyMUM TIMES PAyRz2ySHxZIq2r CROSSING KA2qBqD",
   "2r3r4r5s OVER KAD5qKr TIMES IGI GUNUqLr CROSSING KALsTIMES BADqM2r4qP ELAMITEqSKALu LAGAB TIM",
   "ES U OVER LAGAB TIMES UvOVER KASKAL LAGAB TIMES U OVER LAGAB TIMES UpESH2pIq TIMES BADxUyDqDq",
   "NqSALrHrIM5u OVER KISIM5pUq OVER HI TIMES ASH2 KU OVER HI TIMES ASH2q3q4r VARIANT FORMq7qLr G",
   "UNUqNqRr OPPOSING KURqSHU2pWU318oLAqGABt SQUAREDuTIMES Azb PLUS DA PLUS HAzhGARzhLALzbLzbNzbS",
   "H ZIDA TENUzaBADzbIzaDARzaENzaGAzcRzbIzbUDzd PLUS GUDzaHAzcLzbI TIMES NUNzaIGI GUNUzbMzc PLUS",
   " HAziLUzaKIzcNzbU3zcLzd PLUS HI PLUS AzaLAGABzbISHzbUzcLzaMEzc PLUS ENzbUSHzaNEzaSHE PLUS SUM",
   "zcITA PLUS GISH PLUS ERIN2zqTENUzcU2ze PLUS SHU2zbUMzaTAGzcK4zbE PLUS A PLUS SU PLUS NAzaUzb ",
   "PLUS AzhU PLUS Uzb2 PLUS ASHzbDzbSHzaZU OVER ZUsRt GUNUy OVER LAGAR GUNU SHEuTIMES SHEzd PLUS",
   " SUMqHSHUqK-003t21u5t30t50u1t62t79 OVER LAK-079 GUNUt80u1 OVER LAK-081t92s130t42s210u9t20u5u8",
   "t38t65u6s343u7u8t83u4t90s441u9v TIMES GUzcIGIzcPAP PLUS LU3zlPAP PLUS LU3zcU2 PLUS BAt50u7t70",
   "t83t90u2u3u5s550s608t17v TIMES ASHzcBADzcDUN3 GUNU GUNUzcKU3zcLAzcTARzdEzcU2zdDzdRUDAt36t48v ",
   "TIMES DUBzcGAzcIGIzf GUNUzcNIzcPAP PLUS PAP PLUS LU3zcSHESH PLUS KIzcUDzdRUDAs724t49qLr TIMES",
   " LALqMr TIMES KURzb PLUS RUpIqLqMMU2qSHpUq TIMES BADq2r CROSSING LU2sGUNU TIMES ASHsOPPOSING ",
   "LU2sSHESHIGz TIMES BADtQUAREDsTENUtIMES ALyBADyDISHyESH2zc PLUS LALzdTENUyGAN2 TENUyHALzI TIM",
   "ES BADyIMyKAD2zb3zc PLUS ASHzIyLA PLUS ASHzaGAByME PLUS ENyNEzUyPAPzb PLUS PAP PLUS LU3ySHUzI",
   " PLUS ASHzaK2 PLUS BUyTAK4zUG2q3qGALt OPPOSING LUGALvVER LUGALuSHESHIGqHqLqMr OVER LUMza GAR ",
   "OVER GARoMAq GUNUrTIMES TAK4q2qHqRqSHs2pEqSrHpIq PLUS ZA7qNpUq OVER MUqGr GUNUqNSUBqRGU2qSHs ",
   "CROSSING MUSHtOVER MUSHzc TIMES A PLUS NAzjGAzjKAKtTIMES AzKURzZAs3t GUNUuTIMES Azb PLUS DIza",
   "DIzaZAoNAq2q4qGAs INVERTEDtOPPOSING NAGAtTIMES SHU TENUsRqMr NUTILLUr2pEq SHESHIGrTIMES AxUDp",
   "Iq TIMES Eq2qMr TIMES GAN2 TENUzaR PLUS GAN2 TENUqNr9rDA2u TIMES ANzcSHze PLUS ASHzbBALzbDIM ",
   "GUNUzbGIzdSHzcUDzdLzbHIzbKESH2zbLAK-050zbMASHzcE PLUS GAN2 TENUzbNEzcUNzbPAP PLUS PAPzbSHEze ",
   "PLUS A ANzlSHzn PLUS ASHzbUzc PLUS Uzc2 PLUS ASHzcRUDAzcSHqSAGpUq11s OVER NU11 BUR OVER BURtR",
   "OTATED NINETY DEGREEStTENUqNr CROSSING NUNze LAGAR OVER LAGARsLAGAR TIMES GARzeMASHzeSALzh OV",
   "ER NUN LAGAR TIMES SALzeUSHsOVER NUNsTENUrUZt AB2 TIMES ASHGABzeBIzeDUGzeGUDzeIGI GUNUzeKAD3z",
   "eLAzeNEzeSILA3zeU2uKISIM5 TIMES BIzj UoPAqDqNqPpESH2t ASTERISKpIq CROSSING PIrTIMES AyBxBIyUx",
   "ExIyBxUy2qR2rIGt OPPOSING PIRIGuTIMES KALzaUDzaZAoRAqBpIpUoSAqGr GUNUw TIMES HAsNUTILLUsOVER ",
   "SAGsTIMES AyDUzaByENyHAyIGI GUNUyKAKzURyLUMyMIyNUNySALzHE AT LEFTzaIDyTABzaK4yU2zBzMzRzSHqLr ",
   "LAGAB TIMES ASH2qNGA2qRpHAr3s TIMES AzBADzGISHzNEzSHU2zTURzUza PLUS Ar6s TENUrB6rR2qEr HUsOVE",
   "R SHEza GAD OVER GAD GAR OVER GARzbTAB OVER TAB GAR OVER GARsPLUS HUB2xNAM2xSARrG9rNrSHt2tLAM",
   "qIDs TIMES AzIMrMs TIMES AzBALzaULUGzDINzGARzIGIzc GUNUzKUSHU2zLULzMUGzSALrNIGrRs OVER SHIR B",
   "UR OVER BURtTENUrTAqUr OVER INVERTED SHUr2s PLUS DUG TIMES NIyE2 TIMES ANrBURpIq GUNUrTIMES T",
   "AK4qGr4s OVER SIG4 SHU2qK2qLA3pUq OVER SUqDr2qHURqMrASHqRr9oTAq ASTERISKrGUNUrTIMES HIxMIqBr ",
   "OVER TAB NI OVER NI DISH OVER DISHsSQUAREDqGr TIMES BIyGUDySHEzaUyTUG2yUDqK4s PLUS SAGqRpEq G",
   "UNUpIq TENUq2qLqRr OVER TIRza GAD OVER GAD GAR OVER GARsTIMES TAK4pUqG2qKqMr TIMES GAN2 TENUy",
   "THREE DISHqRr OVER TUR ZA OVER ZAoUp GUDqOVER U PA OVER PA GAR OVER GARxSUR OVER SURxU REVERS",
   "ED OVER U REVERSEDqUr Up2pBpDq GUNUrKUSHU2rSHESHIGy TIMES BADrTIMES BADxMIxU PLUS U PLUS Uzm ",
   "GUNUqUGpMq TIMES LAGABxMEz PLUS DAxSHA3xUqBINqUMs TIMES KASKALzPApNq GUNUpRq CROSSING URrSHES",
   "HIGq2r INVERTEDsTIMES A PLUS HAzfNAzLyHAyNUNyU2za PLUS ASHzgBIzDq4qIr3qUr TIMES AzSHGAByBARyD",
   "ARA3zUNyGAzaLzaN2 TENUzaRzUyHAyIGIzMzSHyKIyLAK-668zU3zaMyMINyPAySHEzIG4yTUyU PLUS GUDzDzRUDAr",
   "DAt TIMES UpSHr TIMES AyKUzaRyTAK4r2rUMXrXpTUKIpZ3r TIMES KASKALqUoZAq SQUARED TIMES KURrTENU",
   "q7qGqMXpE2pIq OVER ZIq3qBr KABA TENUqGqZ2pUq OVER ZU PLUS SARq5r TIMES AyTHREE DISH TENUqBURq",
   "MbP ON BLACK SQUAREdWITH STRAWcCAKEcIDObRLING STONEdY BRACKET EXTENSIONfLOGICAL ANDnORhOPcREN",
   "CY EXCHANGEiSIGNdY AND RICEcVED STEM PARAGRAPH SIGN ORNAMENTbSTARDdOMSbT OF MEATaYCLONEbLINDR",
   "ICITYbPRIOT SYLLABLE AqEqIqJArOqKArErIrOrUqLArErIrOrUqMArErIrOrUqNArErIrOrUqOqPArErIrOrUqRArE",
   "rIrOrUqSArErIrOrUqTArErIrOrUqUqWArErIrOqXArEqZArOdO-MINOAN SIGN CM001v2v4v5v6v7v8v9u10v1v2wBv",
   "3v5v7v9u21v3v4v5v6v7v8v9u30v3v4v5v6v7v8v9u40v1v4v6v7v9u50v1v2v3v4v5v6v8v9u60v1v2v3v4v6v7v8v9u",
   "70v1v2v3v4v5wBv6v8v9u80v1v2v3v4v5v6v7v8v9u90v1v2v4v5v6v7v8v9t100v1v2v3v4v5v7v8v9u10v2v4t301v2",
   "bRILLIC CAPITAL LETTER Ay WITH BREVEzeDIAERESISyBKHASIAN CHEzk WITH DESCENDERzhDZEzhHAyLEUT K",
   "AxBARRED Ozf WITH DIAERESISzSHKIR KAyEyIG YUSzNOCULAR OyLENDED YUSyROAD OMEGAyYELORUSSIAN-UKR",
   "AINIAN IxCCHEyHEza WITH DESCENDERzhIAERESISzgVERTICAL STROKEyLOSED LITTLE YUSyROSSED OxDCHEyE",
   "yJEzaRVyOUBLE MONOCULAR OzeOyWEyZEzaLOzHEzWEzZEzaHExEy WITH DIAERESISyFyLz WITH DESCENDERzfHO",
   "OKzfMIDDLE HOOKzfTAILyMz WITH TAILyNz WITH DESCENDERzfHOOKzfLEFT HOOKzfMIDDLE HOOKzfTAILyRz W",
   "ITH TICKySz WITH DESCENDERxFITAxGHEza WITH DESCENDERzgMIDDLE HOOKzgSTROKEzm AND HOOKzgUPTURNy",
   "JExHAz WITH DESCENDERzfHOOKzfSTROKEzRD SIGNyWExIy WITH DIAERESISzeGRAVEzeMACRONyEz WITH BREVE",
   "zfGRAVEyOzTAzaIFIED AzgBIG YUSzgCLOSED LITTLE YUSzgEzgLITTLE YUSzgYATyZHITSAze WITH DOUBLE GR",
   "AVE ACCENTxJExKAz WITH DESCENDERzfHOOKzfSTROKEzfVERTICAL STROKEyHAKASSIAN CHEyJEyOMI DEzdJEzd",
   "ZJEzcLJEzcNJEzcSJEzcTJEzcZJEzPPAySIxLHAyITTLE YUSyJExMONOCULAR OzbGRAPH UKxNEUTRAL YERyJExOy ",
   "WITH DIAERESISyMEGAzc WITH TITLOyTxPEz WITH DESCENDERzfMIDDLE HOOKySIxQAxREVERSED DZEzgTSEzgY",
   "UzgZEyHAyOUND OMEGAxSCHWAzc WITH DIAERESISyEMISOFT SIGNyHAzCHAzHAzb WITH DESCENDERzORT Ize WI",
   "TH TAILzdUzWEyOFT DEzcELzdMzcSIGNyTRAIGHT Uzh WITH STROKExTCHEyEz WITH DESCENDERzfMIDDLE HOOK",
   "ySEzHEzSEzWEyWExUy WITH DIAERESISzfOUBLE ACUTEzeMACRONyKzRAINIAN IExVExWExYAzEzTyERUzb WITH B",
   "ACK YERzhDIAERESISyIyNyUxZEz WITH DESCENDERzgIAERESISzMLYAyHEza WITH BREVEzgDESCENDERzhIAERES",
   "ISzWErIGATURE A IEzEN GHEzTE TSEiKAVYKAiLETTER MULTIOCULAR OpPALOCHKApSMALL CAPITAL ELiPAYERO",
   "KiSMALL LETTER Aw WITH BREVEzcDIAERESISwBKHASIAN CHEzi WITH DESCENDERzfDZEzfHAwLEUT KAvBARRED",
   " Ozd WITH DIAERESISxSHKIR KAwEwIG YUSxNOCULAR OwLENDED YUSwROAD OMEGAwYELORUSSIAN-UKRAINIAN I",
   "vCCHEwHEy WITH DESCENDERzfIAERESISzeVERTICAL STROKEwLOSED LITTLE YUSwROSSED OvDCHEwEwJEyRVwOU",
   "BLE MONOCULAR OzcOwWEwZEyLOxHExWExZEyHEvEw WITH DIAERESISwFwLx WITH DESCENDERzdHOOKzdMIDDLE H",
   "OOKzdTAILwMx WITH TAILwNx WITH DESCENDERzdHOOKzdLEFT HOOKzdMIDDLE HOOKzdTAILwRx WITH TICKwSx ",
   "WITH DESCENDERvFITAvGHEy WITH DESCENDERzeMIDDLE HOOKzeSTROKEzk AND HOOKzeUPTURNwJEvHAx WITH D",
   "ESCENDERzdHOOKzdSTROKExRD SIGNwWEvIw WITH DIAERESISzcGRAVEzcMACRONwEx WITH BREVEzdGRAVEwOxTAy",
   "IFIED AzeBIG YUSzeCLOSED LITTLE YUSzeEzeLITTLE YUSzeYATwZHITSAzc WITH DOUBLE GRAVE ACCENTvJEv",
   "KAx WITH DESCENDERzdHOOKzdSTROKEzdVERTICAL STROKEwHAKASSIAN CHEwJEwOMI DEzbJEzbZJEzaLJEzaNJEz",
   "aSJEzaTJEzaZJExPPAwSIvLHAwITTLE YUSwJEwONG-LEGGED DEvMONOCULAR OzGRAPH UKvNARROW OwEUTRAL YER",
   "wJEvOw WITH DIAERESISwMEGAza WITH TITLOwTvPALOCHKAwEx WITH DESCENDERzdMIDDLE HOOKwSIvQAvREVER",
   "SED DZEzeTSEzeYUzeZEwHAwOUND OMEGAzaED VEvSCHWAza WITH DIAERESISwEMISOFT SIGNwHAxCHAxHAz WITH",
   " DESCENDERxORT Izc WITH TAILzbUxWEwOFT DEzaELzbMzaSIGNwTRAIGHT Uzf WITH STROKEvTALL HARD SIGN",
   "zaTEzaYATwCHEwEx WITH DESCENDERzdMIDDLE HOOKwHREE-LEGGED TEwSExHExSExWEwWEvUw WITH DIAERESISz",
   "dOUBLE ACUTEzcMACRONwKxRAINIAN IEwNBLENDED UKvVEvWEwIDE ESvYAxExTwERUz WITH BACK YERzfDIAERES",
   "ISwIwNwUvZEx WITH DESCENDERzeIAERESISxMLYAwHEy WITH BREVEzeDESCENDERzfIAERESISxWEpIGATURE A I",
   "ExEN GHExTE TSEiTHOUSANDS SIGN"]

end Gloss.Text.CharName
